import GnnSandbox.Supervisor.Cluster
import GnnSandbox.Supervisor.GitDeploy

/-!
# A clean slate

`deploy_to_git_background` first deletes all files of the repository and waits until the
infrastructures that it finds have disappeared, and then commits the new descriptor. The teardown
swallows all failures, and the commits follow whatever came of it.
-/

namespace GnnSandbox.Supervisor.Cluster

section Deploy

variable (env : Env)

/-- `Repository.request`, with the URL of Gitea. -/
def openRepo : Program Unit Unit := ask env .openRepo fun s => (.ok (), s)

/-- `get_git_content` -/
def listRepo : Program Unit (List String) :=
  ask env .listRepo fun s => (.ok (s.earlier ++ s.committed), s)

/-- `delete_file` -/
def deleteFile (name : String) : Program Unit Unit :=
  ask env (.deleteFile name) fun s =>
    if name ∈ s.earlier ++ s.committed then
      (.ok (), { s with
        earlier := s.earlier.filter (· ≠ name)
        committed := s.committed.filter (· ≠ name) })
    else (.error .notFound, s)

/-- `change_file`, or `create_file` when the file is not known. A file that exists cannot be
created. -/
def writeFile (known : Bool) (path : String) : Program Unit Unit :=
  ask env (.writeFile path) fun s =>
    if known || path ∉ s.earlier ++ s.committed then
      (.ok (), { s with
        earlier := s.earlier.filter (· ≠ path)
        committed := s.committed.filter (· ≠ path) ++ [path] })
    else (.error (.failed (.other "file already exists")), s)

/-- `delete_all_git_files`. A repository that cannot be listed is taken for an empty one. -/
def deleteAllGitFiles : Program Unit Unit :=
  tryCatch (do
    openRepo env
    let contents ← tryCatch (listRepo env) fun _ => pure []
    forM contents fun name => tryCatch (deleteFile env name) fun _ => pure ()) fun _ => pure ()

/-- Step 2 of `teardown_only_background`. What a wait returns is not looked at. -/
def awaitInfrastructures : Program Unit Unit :=
  tryCatch (do
    client env
    resources env .vyosInfrastructure
    let crs ← listCrs env .vyosInfrastructure
    forM crs fun cr => do
      let _ ← waitForCrGone env .vyosInfrastructure cr.name
      pure ()) fun _ => pure ()

/-- `teardown_only_background` -/
def teardownOnly : Program Unit Unit :=
  tryCatch (do
    deleteAllGitFiles env
    awaitInfrastructures env) fun _ => pure ()

/-- `git_file_exists` -/
def gitFileExists (path : String) : Program Unit Bool :=
  tryCatch (do
    let contents ← listRepo env
    pure (path ∈ contents)) fun _ => pure false

/-- `commit_git_file` -/
def commitGitFile (path : String) : Program Unit Bool := do
  openRepo env
  tryCatch (do
    let known ← gitFileExists env path
    writeFile env known path
    pure true) fun _ => pure false

/-- `deploy_descriptor_to_git` -/
def deployDescriptorToGit (d : Git.Descriptor) : Program Unit Unit :=
  forM (Git.orderedResources d) fun resource => do
    let _ ← commitGitFile env (Git.crFilename resource.1)
    pure ()

/-- `deploy_to_git_background` -/
def deployToGit (d : Git.Descriptor) : Program Unit Unit := do
  teardownOnly env
  tryCatch (deployDescriptorToGit env d) fun _ => pure ()

/-- The world after a deployment. -/
def deployed (d : Git.Descriptor) (scene : Scene) (clock : ℕ) : World Unit :=
  Effect.after (deployToGit env d).run (.initial scene clock ())

end Deploy

/-! ## The first commit -/

/-- No file of an earlier deployment and no infrastructure from the start is left. -/
def Clean (s : Scene) : Prop := s.earlier = [] ∧ Gone .vyosInfrastructure s

/-- A commit is issued only on a clean slate. -/
def CleanCommit (e : Entry) : Prop :=
  ∀ path failure, e.event = .call (.writeFile path) failure → Clean e.scene

/-- A call to the repository. -/
def Event.git : Event → Bool
  | .call .openRepo _ => true
  | .call .listRepo _ => true
  | .call (.deleteFile _) _ => true
  | .call (.writeFile _) _ => true
  | _ => false

/-- A call to the repository fails when no file of an earlier deployment is left, and any other
call fails, or a wait times out, when no infrastructure is. -/
def LateTrouble (e : Entry) : Prop :=
  e.event.troubled = true →
    if e.event.git then e.scene.earlier = [] else Gone .vyosInfrastructure e.scene

section Proofs

variable {env : Env} {name : String} {names : List String} {F : World Unit → Prop}

/-- Every file of an earlier deployment has one of some names. -/
def Listed (names : List String) (w : World Unit) : Prop := w.scene.earlier ⊆ names

theorem Listed.fading (names : List String) : Fading (Listed names) :=
  fun _ _ _ hearlier _ h => List.Subset.trans hearlier h

theorem Clean.fading : Fading fun w : World Unit => Clean w.scene := by
  intro w w' hpresent hearlier _ h
  refine ⟨?_, fun r hr => h.2 r (hpresent hr)⟩
  rw [h.1] at hearlier
  exact List.subset_nil.mp hearlier

theorem Listed.of_eq_nil {w : World Unit} (h : w.scene.earlier = []) : Listed names w := by
  unfold Listed
  rw [h]
  exact List.nil_subset names

theorem Listed.of_filter {w : World Unit} (h : Listed (name :: names) w) :
    w.scene.earlier.filter (· ≠ name) ⊆ names := by
  intro file hfile
  obtain ⟨hmem, hne⟩ := List.mem_filter.mp hfile
  exact (List.mem_cons.mp (h hmem)).resolve_left (of_decide_eq_true hne)

/-- Calls that are no commits. -/
theorem cleanCommit_of_ne {event : Event} {s : Scene}
    (h : ∀ path failure, event ≠ .call (.writeFile path) failure) : CleanCommit ⟨event, s⟩ :=
  fun path failure hevent => absurd hevent (h path failure)

theorem openRepo_spec (hF : Fading F) :
    Attempt.Triple (Keeps LateTrouble CleanCommit F) (openRepo env)
      (fun _ => Keeps LateTrouble CleanCommit F)
      fun _ => Keeps LateTrouble CleanCommit fun w => F w ∧ w.scene.earlier = [] :=
  ask_spec hF (fun _ _ _ _ => cleanCommit_of_ne fun _ _ heq => by cases heq) (fun _ _ hw _ => hw)
    (fun _ _ _ herror => by cases herror) fun _ _ hw hok => ⟨hw, hok rfl⟩

theorem listRepo_spec (hF : Fading F) :
    Attempt.Triple (Keeps LateTrouble CleanCommit F) (listRepo env)
      (fun contents => Keeps LateTrouble CleanCommit fun w => F w ∧ Listed contents w)
      fun _ => Keeps LateTrouble CleanCommit fun w => F w ∧ w.scene.earlier = [] := by
  refine ask_spec hF (fun _ _ _ _ => cleanCommit_of_ne fun _ _ heq => by cases heq) ?_
    (fun _ _ _ herror => by cases herror) fun _ _ hw hok => ⟨hw, hok rfl⟩
  intro w contents hw hcontents
  obtain rfl := Except.ok.inj hcontents
  exact ⟨hw, List.subset_append_left _ _⟩

/-- However the deletion of a file ends, it is gone or no other file is left. -/
theorem deleteFile_spec :
    Attempt.Triple (Keeps LateTrouble CleanCommit (Listed (name :: names))) (deleteFile env name)
      (fun _ => Keeps LateTrouble CleanCommit (Listed names))
      fun _ => Keeps LateTrouble CleanCommit (Listed names) := by
  refine ask_spec (Listed.fading _) (fun _ _ _ _ => cleanCommit_of_ne fun _ _ heq => by cases heq)
    ?_ ?_ ?_
  · intro w _ hw hanswer
    split_ifs at hanswer ⊢
    exact hw.of_filter
  · intro w e hw hanswer
    split_ifs at hanswer ⊢ with hmem
    intro file hfile
    refine (List.mem_cons.mp (hw hfile)).resolve_left fun heq => hmem ?_
    exact List.mem_append_left _ (heq ▸ hfile)
  · exact fun f w _ hok => Listed.of_eq_nil (hok rfl)

/-- **Files.** However the first step ends, no file is left. -/
theorem deleteAllGitFiles_spec {E : Raised → World Unit → Prop} :
    Attempt.Triple (Keeps LateTrouble CleanCommit fun _ => True) (deleteAllGitFiles env)
      (fun _ => Keeps LateTrouble CleanCommit (Listed [])) E := by
  have hnone : ∀ (names : List String) (w : World Unit), Keeps LateTrouble CleanCommit
      (fun w => True ∧ w.scene.earlier = []) w → Keeps LateTrouble CleanCommit (Listed names) w :=
    fun names w hw => hw.imp fun w hw => Listed.of_eq_nil hw.2
  have htrue : Fading fun _ : World Unit => True := fun _ _ _ _ _ hw => hw
  have hlist : Attempt.Triple (Keeps LateTrouble CleanCommit fun _ => True)
      (tryCatch (listRepo env) fun _ => pure [])
      (fun contents => Keeps LateTrouble CleanCommit (Listed contents))
      fun _ => Keeps LateTrouble CleanCommit (Listed []) :=
    .tryCatch ((listRepo_spec htrue).conseq (fun _ hw => hw)
      (fun _ _ hw => hw.imp fun _ hw => hw.2) fun _ _ hw => hw) fun _ => .pure (hnone [])
  refine .tryCatch (.bind ((openRepo_spec htrue).conseq (fun _ hw => hw) (fun _ _ hw => hw)
    fun _ => hnone []) fun _ => .bind hlist fun contents => ?_) fun e => .pure fun w hw => hw
  exact Attempt.Triple.loop (I := fun names => Keeps LateTrouble CleanCommit (Listed names))
    fun name names _ => .tryCatch deleteFile_spec fun _ => .pure fun w hw => hw

theorem watch_infrastructure (hF : Fading F) :
    Watch LateTrouble CleanCommit .vyosInfrastructure F (fun w => Gone .vyosInfrastructure w.scene)
      fun w => Gone .vyosInfrastructure w.scene where
  fading := hF
  good event w hkind _ _ := cleanCommit_of_ne fun path failure heq => by
    rw [heq] at hkind
    cases hkind
  trouble event w hkind htroubled _ hok := by
    have hgit : event.git = false := by
      cases event with
      | call c failure => cases c <;> first | rfl | cases hkind
      | expired kind name => rfl
      | emitted stage => rfl
    have hgone := hok htroubled
    dsimp only at hgone
    rw [hgit, if_neg Bool.false_ne_true] at hgone
    split_ifs <;> exact hgone

/-- The infrastructures that are left have some names, and no file is left. -/
def Awaited (names : List String) (w : World Unit) : Prop :=
  Listed [] w ∧ Named .vyosInfrastructure names w.scene

theorem Awaited.fading (names : List String) : Fading (Awaited names) :=
  (Listed.fading []).and Fading.present

theorem Awaited.clean {w : World Unit} (hfiles : Listed [] w)
    (hgone : Gone .vyosInfrastructure w.scene) : Clean w.scene :=
  ⟨List.subset_nil.mp hfiles, hgone⟩

/-- However a wait ends, the infrastructure is gone. -/
theorem awaitInfrastructure_spec :
    Attempt.Triple (Keeps LateTrouble CleanCommit (Awaited (name :: names)))
      (waitForCrGone env .vyosInfrastructure name)
      (fun _ => Keeps LateTrouble CleanCommit (Awaited names))
      fun _ => Keeps LateTrouble CleanCommit fun w => Clean w.scene := by
  refine (waitForCrGone_spec (watch_infrastructure (Awaited.fading (name :: names)))).conseq
    (fun _ hw => hw) (fun gone w hw => hw.imp fun w hw => ⟨hw.1.1, ?_⟩) fun e w hw =>
    hw.imp fun w hw => Awaited.clean hw.1.1 hw.2.1
  cases gone with
  | true => exact Named.of_absent [] hw.1.2 (hw.2.1 rfl)
  | false => exact (hw.2.2 rfl).named

/-- **Infrastructures.** However the second step ends, the slate is clean. -/
theorem awaitInfrastructures_spec {E : Raised → World Unit → Prop} :
    Attempt.Triple (Keeps LateTrouble CleanCommit (Listed [])) (awaitInfrastructures env)
      (fun _ => Keeps LateTrouble CleanCommit fun w => Clean w.scene) E := by
  have hfading := Listed.fading []
  have hwatch := watch_infrastructure hfading
  have hclient : Attempt.Triple (Keeps LateTrouble CleanCommit (Listed [])) (client env)
      (fun _ => Keeps LateTrouble CleanCommit (Listed []))
      fun _ => Keeps LateTrouble CleanCommit fun w => Clean w.scene :=
    ask_spec hfading (fun _ _ _ _ => cleanCommit_of_ne fun _ _ heq => by cases heq)
      (fun _ _ hw _ => hw) (fun _ _ _ herror => by cases herror)
      fun _ _ hw hok => Awaited.clean hw (hok rfl)
  have hclean : ∀ (e : Raised) (w : World Unit), Keeps LateTrouble CleanCommit
      (fun w => Listed [] w ∧ Gone .vyosInfrastructure w.scene ∧ e ≠ .notFound) w →
      Keeps LateTrouble CleanCommit (fun w => Clean w.scene) w :=
    fun e w hw => hw.imp fun w hw => Awaited.clean hw.1 hw.2.1
  refine .tryCatch (.bind hclient fun _ => .bind ((resources_spec hwatch).conseq (fun _ hw => hw)
    (fun _ _ hw => hw) hclean) fun _ => .bind ((listCrs_spec hwatch).conseq (fun _ hw => hw)
    (fun _ _ hw => hw) hclean) fun crs => ?_) fun e => .pure fun w hw => hw
  refine (Attempt.Triple.loop (I := fun crs : List Resource => Keeps LateTrouble CleanCommit
    (Awaited (crs.map Resource.name))) fun cr crs _ => .bind awaitInfrastructure_spec fun _ =>
    .pure fun w hw => hw).conseq (fun w hw => hw.imp fun w hw => ?_)
    (fun _ w hw => hw.imp fun w hw => Awaited.clean hw.1 hw.2.gone) fun _ _ hw => hw
  exact ⟨hw.1, fun r hr hkind => List.mem_map_of_mem (hw.2.2 r hr hkind)⟩

theorem writeFile_spec {known : Bool} {path : String} :
    Attempt.Triple (Keeps LateTrouble CleanCommit fun w => Clean w.scene)
      (writeFile env known path) (fun _ => Keeps LateTrouble CleanCommit fun w => Clean w.scene)
      fun _ => Keeps LateTrouble CleanCommit fun w => Clean w.scene := by
  refine ask_spec Clean.fading ?_ ?_ ?_ fun f w hw _ => hw
  · exact fun _ _ hw _ _ _ _ => hw
  · intro w _ hw hanswer
    split_ifs at hanswer ⊢
    exact ⟨by rw [hw.1]; rfl, hw.2⟩
  · intro w e hw hanswer
    split_ifs at hanswer ⊢
    exact hw

/-- Commits leave the slate clean of what was there before. -/
theorem commitGitFile_spec {path : String} :
    Attempt.Triple (Keeps LateTrouble CleanCommit fun w => Clean w.scene)
      (commitGitFile env path) (fun _ => Keeps LateTrouble CleanCommit fun w => Clean w.scene)
      fun _ => Keeps LateTrouble CleanCommit fun w => Clean w.scene := by
  have hleft : ∀ {P : World Unit → Prop} (w : World Unit),
      Keeps LateTrouble CleanCommit (fun w => Clean w.scene ∧ P w) w →
        Keeps LateTrouble CleanCommit (fun w => Clean w.scene) w :=
    fun w hw => hw.imp fun w hw => hw.1
  have hexists : Attempt.Triple (Keeps LateTrouble CleanCommit fun w => Clean w.scene)
      (gitFileExists env path) (fun _ => Keeps LateTrouble CleanCommit fun w => Clean w.scene)
      fun _ => Keeps LateTrouble CleanCommit fun w => Clean w.scene :=
    .tryCatch (.bind (listRepo_spec Clean.fading) fun _ => .pure hleft) fun _ => .pure hleft
  refine .bind ((openRepo_spec Clean.fading).conseq (fun _ hw => hw) (fun _ _ hw => hw)
    fun _ => hleft) fun _ => ?_
  exact .tryCatch (.bind hexists fun _ => .bind writeFile_spec fun _ => .pure fun w hw => hw)
    fun _ => .pure fun w hw => hw

end Proofs

/-- **A clean slate.** When there is trouble only with what is gone, commits are issued only when
no file of an earlier deployment and no infrastructure from the start is left. -/
theorem deployed_clean (env : Env) (d : Git.Descriptor) (scene : Scene) (clock : ℕ)
    (h : ∀ e ∈ (deployed env d scene clock).log, LateTrouble e) :
    ∀ e ∈ (deployed env d scene clock).log, CleanCommit e := by
  have hteardown : Attempt.Triple (Keeps LateTrouble CleanCommit fun _ => True)
      (teardownOnly env) (fun _ => Keeps LateTrouble CleanCommit fun w => Clean w.scene)
      fun _ => Keeps LateTrouble CleanCommit fun w => Clean w.scene :=
    .tryCatch (.bind deleteAllGitFiles_spec fun _ => awaitInfrastructures_spec)
      fun _ => .pure fun w hw => hw
  have hdeploy : Attempt.Triple (Keeps LateTrouble CleanCommit fun w => Clean w.scene)
      (deployDescriptorToGit env d)
      (fun _ => Keeps LateTrouble CleanCommit fun w => Clean w.scene)
      fun _ => Keeps LateTrouble CleanCommit fun w => Clean w.scene :=
    Attempt.Triple.loop (I := fun _ => Keeps LateTrouble CleanCommit fun w => Clean w.scene)
      fun resource rest _ => .bind commitGitFile_spec fun _ => .pure fun w hw => hw
  have hrun : Attempt.Triple (Keeps LateTrouble CleanCommit fun _ => True) (deployToGit env d)
      (fun _ => Keeps LateTrouble CleanCommit fun w => Clean w.scene)
      fun _ => Keeps LateTrouble CleanCommit fun w => Clean w.scene :=
    .bind hteardown fun _ => .tryCatch hdeploy fun _ => .pure fun w hw => hw
  have hend := hrun.after (fun _ _ hw => hw) (fun _ _ hw => hw) (.initial scene clock ())
    fun _ => ⟨fun _ he => (by cases he), trivial⟩
  exact (hend h).1

/-! ## An infrastructure -/

def core : Resource := ⟨.vyosInfrastructure, "core", none⟩

/-- An infrastructure with its file. -/
def deployedCore : Scene := ⟨[core], [], ["core.yaml"], []⟩

/-- Config Sync deletes at once. -/
def syncing : Env := { failingAt none with others := fun _ _ => true }

instance : DecidablePred LateTrouble := fun e => by
  unfold LateTrouble Gone
  infer_instance

theorem deployed_core :
    (∀ e ∈ (deployed syncing (Git.network Git.core Git.blue) deployedCore 0).log, LateTrouble e) ∧
      ∀ e ∈ (deployed syncing (Git.network Git.core Git.blue) deployedCore 0).log,
        CleanCommit e := by
  have htrouble : ∀ e ∈ (deployed syncing (Git.network Git.core Git.blue) deployedCore 0).log,
      LateTrouble e := by
    decide +kernel
  exact ⟨htrouble, deployed_clean syncing (Git.network Git.core Git.blue) deployedCore 0 htrouble⟩

/-- The list of the files fails and is taken for an empty one. Nothing is deleted, the wait for the
infrastructure times out, and the new files are committed over the old ones. -/
theorem committed_over_old :
    (∃ e ∈ (deployed (failingAt (some 1)) (Git.network Git.core Git.blue) deployedCore 0).log,
      e.event = .call (.writeFile "core.yaml") none ∧ e.scene.earlier = ["core.yaml"] ∧
        e.scene.committed = [] ∧ core ∈ e.scene.present) ∧
    ¬∀ e ∈ (deployed (failingAt (some 1)) (Git.network Git.core Git.blue) deployedCore 0).log,
      CleanCommit e := by
  have hcommit : ∃ e ∈ (deployed (failingAt (some 1)) (Git.network Git.core Git.blue)
      deployedCore 0).log, e.event = .call (.writeFile "core.yaml") none ∧
        e.scene.earlier = ["core.yaml"] ∧ e.scene.committed = [] ∧ core ∈ e.scene.present := by
    decide +kernel
  refine ⟨hcommit, fun hclean => ?_⟩
  obtain ⟨e, he, hevent, hearlier, -, -⟩ := hcommit
  have hnone := (hclean e he _ _ hevent).1
  rw [hearlier] at hnone
  cases hnone

end GnnSandbox.Supervisor.Cluster
