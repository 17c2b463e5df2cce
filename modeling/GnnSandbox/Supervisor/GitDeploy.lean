import GnnSandbox.Graph.Json
import Mathlib.Data.List.Dedup
import Mathlib.Data.List.Forall2
import Mathlib.Data.List.Nodup
import Mathlib.Data.List.Perm.Subperm
import Mathlib.Logic.Function.Basic

/-!
# Committing a descriptor

`deploy_descriptor_to_git` commits every resource of a descriptor to the repository of the network,
each to a file that is named by the resource's name alone. A commit looks for the file first and
changes it or creates it. Resources of different kinds may have one name.
-/

namespace GnnSandbox.Supervisor.Git

open Graph (Json)

/-! ## Resources -/

/-- A Kubernetes object name. It holds no slash. -/
abbrev ObjectName := {s : String // '/' ∉ s.toList}

structure Metadata where
  name : Option ObjectName
  other : Json
deriving DecidableEq

/-- The body of a custom resource. -/
structure Body where
  kind : Option String
  metadata : Option Metadata
  other : Json
deriving DecidableEq

/-- An infrastructure or underlay that is absent or empty is `none`. -/
structure Descriptor where
  infrastructure : Option Body
  underlay : Option Body
  vpns : List Body
  trafficTests : List Body

def Body.name (body : Body) : String :=
  ((body.metadata.bind Metadata.name).map Subtype.val).getD "unknown"

/-- `_cr_filename` -/
def crFilename (body : Body) : String := body.name ++ ".yaml"

/-- `_ordered_resources` -/
def orderedResources (d : Descriptor) : List (Body × String) :=
  d.infrastructure.toList.map (·, "infrastructure") ++ d.underlay.toList.map (·, "underlay") ++
    d.vpns.map (·, "vpn") ++ d.trafficTests.map (·, "traffic_test")

/-! ## Commits -/

/-- The files of the repository by their paths. The files of the root are those without a slash. -/
abbrev Repo := String → Option String

/-- What Gitea answers during one commit: whether the repository can be opened, its content
listed and the file written. -/
structure Answers where
  opens : Bool
  lists : Bool
  writes : Bool
deriving DecidableEq

/-- `git_file_exists`, which takes an error for an absent file. -/
def gitFileExists (a : Answers) (repo : Repo) (path : String) : Bool :=
  a.lists && (repo path).isSome

/-- `commit_git_file`; `none` when the repository cannot be opened, which raises. A file that
exists cannot be created. -/
def commitGitFile (a : Answers) (repo : Repo) (path content : String) : Option (Bool × Repo) :=
  if a.opens then
    if a.writes && (gitFileExists a repo path || (repo path).isNone) then
      some (true, Function.update repo path (some content))
    else some (false, repo)
  else none

structure Deployed where
  committed : List String
  failed : List String
  repo : Repo

section Deploy

variable (dump : Body → String) (answers : ℕ → Answers)

/-- The loop of `deploy_descriptor_to_git` from the resource with an index on. -/
def deployFrom : ℕ → Deployed → List (Body × String) → Option Deployed
  | _, s, [] => some s
  | i, s, (body, _) :: rest => do
    let label := body.kind.getD "Unknown" ++ "/" ++ body.name
    let (ok, repo) ← commitGitFile (answers i) s.repo (crFilename body) (dump body)
    deployFrom (i + 1)
      (if ok then ⟨s.committed ++ [label], s.failed, repo⟩
      else ⟨s.committed, s.failed ++ [label], repo⟩) rest

/-- `deploy_descriptor_to_git`, where `dump` is `yaml.dump`. -/
def deployDescriptorToGit (repo : Repo) (d : Descriptor) : Option Deployed :=
  deployFrom dump answers 0 ⟨[], [], repo⟩ (orderedResources d)

end Deploy

/-! ## Complete deployments -/

/-- The resource bodies of a descriptor, in the order in which they are committed. -/
def bodies (d : Descriptor) : List Body := (orderedResources d).map Prod.fst

/-- Each resource has a file of its own that parses to it, and every other file is as before. -/
def Complete (load : String → Option Body) (d : Descriptor) (before after : Repo) : Prop :=
  ∃ files : List String, files.Nodup ∧
    List.Forall₂ (fun path body => ∃ text, after path = some text ∧ load text = some body) files
      (bodies d) ∧
    ∀ path ∉ files, after path = before path

section Proofs

variable {dump : Body → String} {load : String → Option Body} {answers : ℕ → Answers}
  {d : Descriptor} {s s' : Deployed} {repo : Repo} {i : ℕ} {l : List (Body × String)}

/-- The repository after the commits of some resources. -/
def commitAll (dump : Body → String) (repo : Repo) (l : List Body) : Repo :=
  l.foldl (fun repo body => Function.update repo (crFilename body) (some (dump body))) repo

theorem commitAll_of_notMem {l : List Body} {path : String} (h : path ∉ l.map crFilename) :
    commitAll dump repo l path = repo path := by
  induction l generalizing repo with
  | nil => rfl
  | cons body l ih =>
    rw [List.map_cons, List.mem_cons, not_or] at h
    have hrest : commitAll dump repo (body :: l) =
        commitAll dump (Function.update repo (crFilename body) (some (dump body))) l := rfl
    rw [hrest, ih h.2, Function.update_of_ne h.1]

/-- With different file names every resource has its file. -/
theorem commitAll_of_mem {l : List Body} (hnodup : (l.map crFilename).Nodup) {body : Body}
    (h : body ∈ l) : commitAll dump repo l (crFilename body) = some (dump body) := by
  induction l generalizing repo with
  | nil => cases h
  | cons first l ih =>
    obtain ⟨hfirst, hnodup⟩ := List.nodup_cons.mp hnodup
    have hrest : commitAll dump repo (first :: l) =
        commitAll dump (Function.update repo (crFilename first) (some (dump first))) l := rfl
    rw [hrest]
    rcases List.mem_cons.mp h with rfl | h
    · rw [commitAll_of_notMem hfirst, Function.update_self]
    · exact ih hnodup h

/-- A commit that reports success has written the file. -/
theorem commitGitFile_true {a : Answers} {path content : String} {repo' : Repo}
    (h : commitGitFile a repo path content = some (true, repo')) :
    repo' = Function.update repo path (some content) := by
  unfold commitGitFile at h
  split_ifs at h
  · exact (Prod.mk.inj (Option.some.inj h)).2.symm
  · cases (Prod.mk.inj (Option.some.inj h)).1

/-- **Without failures** every commit was made. -/
theorem deployFrom_spec (h : deployFrom dump answers i s l = some s') (hnone : s'.failed = []) :
    s.failed = [] ∧ s'.repo = commitAll dump s.repo (l.map Prod.fst) := by
  induction l generalizing i s with
  | nil =>
    obtain rfl := Option.some.inj h
    exact ⟨hnone, rfl⟩
  | cons resource l ih =>
    obtain ⟨body, label⟩ := resource
    unfold deployFrom at h
    dsimp only at h
    obtain ⟨⟨ok, repo⟩, hcommit, hrest⟩ := Option.bind_eq_some_iff.mp h
    obtain ⟨hfailed, hrepo⟩ := ih hrest
    cases ok with
    | true =>
      refine ⟨hfailed, hrepo.trans ?_⟩
      rw [if_pos rfl, commitGitFile_true hcommit]
      rfl
    | false =>
      rw [if_neg Bool.false_ne_true] at hfailed
      exact absurd hfailed (by simp)

/-- Calls that all succeed. -/
def allSucceed : ℕ → Answers := fun _ => ⟨true, true, true⟩

theorem commitGitFile_allSucceed (path content : String) :
    commitGitFile (allSucceed i) repo path content =
      some (true, Function.update repo path (some content)) := by
  unfold commitGitFile gitFileExists allSucceed
  rw [if_pos rfl, if_pos]
  cases repo path <;> rfl

theorem deployFrom_allSucceed (hnone : s.failed = []) :
    ∃ s', deployFrom dump allSucceed i s l = some s' ∧ s'.failed = [] := by
  induction l generalizing i s with
  | nil => exact ⟨s, rfl, hnone⟩
  | cons resource l ih =>
    obtain ⟨body, label⟩ := resource
    unfold deployFrom
    dsimp only
    rw [commitGitFile_allSucceed]
    exact ih hnone

/-- Different files that hold resources are no more than the files there are. -/
theorem length_le_of_holds {files : List String} {l : List Body} {after : Repo}
    (hnodup : files.Nodup) (hholds : List.Forall₂
      (fun path body => ∃ text, after path = some text ∧ load text = some body) files l)
    {written : List String} (hwritten : ∀ path, after path ≠ none → path ∈ written) :
    l.length ≤ written.dedup.length := by
  have hsubset : ∀ path ∈ files, path ∈ written.dedup := by
    intro path hpath
    obtain ⟨i, hi, rfl⟩ := List.mem_iff_getElem.mp hpath
    obtain ⟨hlength, hget⟩ := List.forall₂_iff_get.mp hholds
    obtain ⟨text, htext, -⟩ := hget i hi (hlength ▸ hi)
    rw [List.mem_dedup]
    exact hwritten _ fun hnone => Option.some_ne_none text (htext.symm.trans hnone)
  rw [← hholds.length_eq]
  exact (List.subperm_of_subset hnodup hsubset).length_le

/-- A list that is as long without its repetitions has none. -/
theorem nodup_of_length_le {l : List String} (h : l.length ≤ l.dedup.length) : l.Nodup := by
  have heq := (List.dedup_sublist l).eq_of_length_le h
  rw [← heq]
  exact List.nodup_dedup l

end Proofs

/-- **When deployments are complete.** From every repository and with every pattern of failing
calls, a deployment that reports no failure is complete, exactly when the resources have different
file names. -/
theorem complete_iff_nodup (dump : Body → String) (load : String → Option Body) (d : Descriptor)
    (hyaml : ∀ body ∈ bodies d, load (dump body) = some body) :
    (∀ (answers : ℕ → Answers) (before : Repo) (result : Deployed),
      deployDescriptorToGit dump answers before d = some result → result.failed = [] →
        Complete load d before result.repo) ↔ ((bodies d).map crFilename).Nodup := by
  constructor
  · intro h
    have hall : ∃ result, deployDescriptorToGit dump allSucceed (fun _ => none) d = some result ∧
        result.failed = [] := deployFrom_allSucceed rfl
    obtain ⟨result, hdeploy, hnone⟩ := hall
    obtain ⟨-, hrepo⟩ := deployFrom_spec hdeploy hnone
    obtain ⟨files, hfiles, hholds, -⟩ := h allSucceed (fun _ => none) result hdeploy hnone
    -- into an empty repository nothing but the resources' files is written
    have hwritten : ∀ path, result.repo path ≠ none → path ∈ (bodies d).map crFilename := by
      intro path hpath
      by_contra hnot
      rw [hrepo] at hpath
      exact hpath (commitAll_of_notMem hnot)
    have hlength := length_le_of_holds hfiles hholds hwritten
    rw [← List.length_map (f := crFilename)] at hlength
    exact nodup_of_length_le hlength
  · intro hnodup answers before result hdeploy hnone
    obtain ⟨-, hrepo⟩ := deployFrom_spec hdeploy hnone
    refine ⟨(bodies d).map crFilename, hnodup, ?_, fun path hpath => ?_⟩
    · rw [List.forall₂_map_left_iff, List.forall₂_same]
      intro body hbody
      exact ⟨dump body, hrepo ▸ commitAll_of_mem hnodup hbody, hyaml body hbody⟩
    · rw [hrepo]
      exact commitAll_of_notMem hpath

/-! ## A small network -/

def core : ObjectName := ⟨"core", by decide⟩

def blue : ObjectName := ⟨"blue", by decide⟩

/-- A resource of which only the kind and the name are given. -/
def resource (kind : String) (name : ObjectName) : Body :=
  ⟨some kind, some ⟨some name, .obj []⟩, .obj []⟩

/-- `yaml.dump` of such a resource. -/
def plainDump (body : Body) : String :=
  "kind: " ++ body.kind.getD "null" ++ "\nmetadata:\n  name: " ++ body.name ++ "\n"

/-- `yaml.safe_load` of such a resource among those of a descriptor. -/
def plainLoad (d : Descriptor) (text : String) : Option Body :=
  (bodies d).find? fun body => plainDump body = text

/-- An infrastructure and a VPN. -/
def network (infrastructure vpn : ObjectName) : Descriptor :=
  ⟨some (resource "VyOSInfrastructure" infrastructure), none, [resource "VyOSL3VPN" vpn], []⟩

theorem complete_core_blue :
    ∃ result, deployDescriptorToGit plainDump allSucceed (fun _ => some "") (network core blue) =
        some result ∧
      Complete (plainLoad (network core blue)) (network core blue) (fun _ => some "")
        result.repo :=
  ⟨_, rfl, (complete_iff_nodup plainDump (plainLoad (network core blue)) (network core blue)
    (by decide)).mpr (by decide) allSucceed _ _ rfl rfl⟩

/-- The VPN replaces the infrastructure of the same name, and no commit has failed. -/
theorem vpn_replaces_infrastructure :
    ∃ result, deployDescriptorToGit plainDump allSucceed (fun _ => none) (network core core) =
        some result ∧
      result.committed = ["VyOSInfrastructure/core", "VyOSL3VPN/core"] ∧ result.failed = [] ∧
      result.repo "core.yaml" = some "kind: VyOSL3VPN\nmetadata:\n  name: core\n" ∧
      ¬Complete (plainLoad (network core core)) (network core core) (fun _ => none)
        result.repo := by
  refine ⟨_, rfl, rfl, rfl, rfl, ?_⟩
  rintro ⟨files, hfiles, hholds, -⟩
  have hwritten : ∀ path, commitAll plainDump (fun _ => none) (bodies (network core core)) path ≠
      none → path ∈ ["core.yaml", "core.yaml"] := by
    intro path hpath
    by_contra hnot
    exact hpath (commitAll_of_notMem hnot)
  exact absurd (length_le_of_holds hfiles hholds hwritten) (by decide)

end GnnSandbox.Supervisor.Git
