import GnnSandbox.Bench.Defects.Classes

/-!
# The registry

The defect classes by name, what each declares, and what each does.
-/

namespace GnnSandbox.Bench

open Raise

variable {env : Env}

/-- The classes of `SINGLE_PROJECTION_REGISTRY`. -/
inductive SingleClass where
  | missingNode
  | missingEdge
  | missingAttribute
  | attributeDrift
  | endpointShift
  | asymmetricLink
  | orphanEntity
  | splitIdentity
  | mergedIdentity
  | malformedId
  | outOfRange
  | invalidEnum
deriving DecidableEq, Repr

namespace SingleClass

def name : SingleClass → String
  | missingNode => MissingNode.name
  | missingEdge => MissingEdge.name
  | missingAttribute => MissingAttribute.name
  | attributeDrift => AttributeDrift.name
  | endpointShift => EndpointShift.name
  | asymmetricLink => AsymmetricLink.name
  | orphanEntity => OrphanEntity.name
  | splitIdentity => SplitIdentity.name
  | mergedIdentity => MergedIdentity.name
  | malformedId => MalformedId.name
  | outOfRange => OutOfRange.name
  | invalidEnum => InvalidEnum.name

def isoDimension : SingleClass → String
  | missingNode | missingEdge | missingAttribute => "completeness"
  | attributeDrift | endpointShift => "accuracy"
  | asymmetricLink | orphanEntity => "consistency"
  | splitIdentity | mergedIdentity => "uniqueness"
  | malformedId | outOfRange | invalidEnum => "validity"

def defaultSidEntityType : SingleClass → String
  | missingNode | attributeDrift | splitIdentity | mergedIdentity | malformedId | invalidEnum =>
    "PhysicalRouter"
  | missingAttribute | orphanEntity | outOfRange => "PhysicalInterface"
  | missingEdge | endpointShift | asymmetricLink => "Interface_Link"

def applicableEntities (c : SingleClass) (side : Side) (entityType : Option String) :
    Inject env (List EntityRef) :=
  match c with
  | asymmetricLink => linkEntities side
  | c => defaultEntities c.name side entityType (singleRef env)

def apply : SingleClass → Side → EntityRef → Params → Inject env Mutation
  | missingNode => MissingNode.apply
  | missingEdge => MissingEdge.apply
  | missingAttribute => MissingAttribute.apply
  | attributeDrift => AttributeDrift.apply
  | endpointShift => EndpointShift.apply
  | asymmetricLink => AsymmetricLink.apply
  | orphanEntity => OrphanEntity.apply
  | splitIdentity => SplitIdentity.apply
  | mergedIdentity => MergedIdentity.apply
  | malformedId => MalformedId.apply
  | outOfRange => OutOfRange.apply
  | invalidEnum => InvalidEnum.apply

end SingleClass

/-- The classes of `CROSS_SOURCE_REGISTRY`. -/
inductive CrossClass where
  | attributeConflict
  | structuralConflict
  | existenceConflict
  | phantomEntity
  | shadowEntity
deriving DecidableEq, Repr

namespace CrossClass

def name : CrossClass → String
  | attributeConflict => AttributeConflict.name
  | structuralConflict => StructuralConflict.name
  | existenceConflict => ExistenceConflict.name
  | phantomEntity => PhantomEntity.name
  | shadowEntity => ShadowEntity.name

def isoDimension : CrossClass → String
  | attributeConflict | phantomEntity => "accuracy"
  | structuralConflict => "consistency"
  | existenceConflict | shadowEntity => "completeness"

def defaultSidEntityType : CrossClass → String
  | structuralConflict => "Interface_Link"
  | _ => "PhysicalRouter"

def applicableEntities (c : CrossClass) (params : Params) (entityType : Option String) :
    Inject env (List EntityRef) :=
  match c with
  | structuralConflict => linkEntities .catalog
  | phantomEntity => PhantomEntity.applicableEntities params entityType
  | shadowEntity => ShadowEntity.applicableEntities params entityType
  | c => defaultEntities c.name .catalog entityType (crossRef env)

def apply : CrossClass → EntityRef → Params → Inject env Mutation
  | attributeConflict => AttributeConflict.apply
  | structuralConflict => StructuralConflict.apply
  | existenceConflict => ExistenceConflict.apply
  | phantomEntity => PhantomEntity.apply
  | shadowEntity => ShadowEntity.apply

end CrossClass

/-- The classes of `REGISTRY`. -/
inductive DefectClass where
  | single (c : SingleClass)
  | cross (c : CrossClass)
deriving DecidableEq, Repr

namespace DefectClass

def all : List DefectClass :=
  [.single .missingNode, .single .missingEdge, .single .missingAttribute, .single .attributeDrift,
    .single .endpointShift, .single .asymmetricLink, .single .orphanEntity, .single .splitIdentity,
    .single .mergedIdentity, .single .malformedId, .single .outOfRange, .single .invalidEnum,
    .cross .attributeConflict, .cross .structuralConflict, .cross .existenceConflict,
    .cross .phantomEntity, .cross .shadowEntity]

def name : DefectClass → String
  | single c => c.name
  | cross c => c.name

def isoDimension : DefectClass → String
  | single c => c.isoDimension
  | cross c => c.isoDimension

def defaultSidEntityType : DefectClass → String
  | single c => c.defaultSidEntityType
  | cross c => c.defaultSidEntityType

/-- The candidates, as `_apply_defect` asks for them. -/
def applicableEntities (c : DefectClass) (target : TargetProjection) (params : Params)
    (entityType : Option String) : Inject env (List EntityRef) :=
  match c with
  | single c => c.applicableEntities target.side entityType
  | cross c => c.applicableEntities params entityType

/-- The mutation of an entity, as `_apply_defect` asks for it. -/
def apply (c : DefectClass) (target : TargetProjection) (entity : EntityRef) (params : Params) :
    Inject env Mutation :=
  match c with
  | single c => c.apply target.side entity params
  | cross c => c.apply entity params

/-- The projection on which rows are filtered. -/
def filterSide (c : DefectClass) (target : TargetProjection) : Option Side :=
  match c with
  | single _ => some target.side
  | cross _ => none

end DefectClass

/-- `resolve` -/
def resolve (name : String) : Except Error DefectClass :=
  match DefectClass.all.find? fun c => c.name = name with
  | some c => .ok c
  | none => .error (.keyError ("Unknown defect class: " ++ name))

end GnnSandbox.Bench
