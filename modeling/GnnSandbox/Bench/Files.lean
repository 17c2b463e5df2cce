import GnnSandbox.Bench.Agreement
import GnnSandbox.Bench.Scenario

/-!
# Running a scenario on files

`run_scenario` reads the twin, opens the ledger, applies the defects, and renders the
catalog and then the telemetry. The files that it leaves when it raises depend on where it
stopped.
-/

namespace GnnSandbox.Bench

/-- The files by their paths. -/
abbrev Disk := String → Option String

namespace Disk

/-- A file gets a new text. -/
def write (disk : Disk) (path text : String) : Disk := Function.update disk path (some text)

/-- A file that is open for writing gets some more text. -/
def append (disk : Disk) (path text : String) : Disk :=
  Function.update disk path ((disk path).map (· ++ text))

variable {disk : Disk} {path path' text : String}

@[simp] theorem write_self : disk.write path text path = some text := Function.update_self ..

theorem write_of_ne (h : path' ≠ path) : disk.write path text path' = disk path' :=
  Function.update_of_ne h ..

theorem append_write {more : String} :
    (disk.write path text).append path more = disk.write path (text ++ more) := by
  unfold append write
  rw [Function.update_self, Function.update_idem]
  rfl

end Disk

/-- The texts of what is written, and the twins that are read from texts. -/
structure Formats where
  /-- `GoldenTwin.model_validate(json.loads(text))` -/
  parse : String → Except Error GoldenTwin
  /-- A line of the ledger. -/
  line : DefectRecord → String
  csv : List Row → String
  json : List (String × List Row) → String
  /-- `(base_dir / path).resolve()` -/
  resolve : String → String

variable (env : Env) (fmt : Formats)

/-- `load_golden_twin` -/
def loadGoldenTwin (disk : Disk) (path : String) : Except Error GoldenTwin :=
  match disk path with
  | none => .error (.fileNotFound path)
  | some text => do
    let twin ← fmt.parse text
    if twin.Valid env then return twin
    else throw (.valueError ("GoldenTwin validation failed:\n  - " ++
      "\n  - ".intercalate (validateGoldenTwin env twin true)))

/-- `LedgerWriter.__enter__` -/
def openLedger (overwrite : Bool) (path : String) (disk : Disk) : Except Error Disk :=
  if (disk path).isSome ∧ !overwrite then
    .error (.fileExists ("Ledger " ++ path ++ " already exists. Pass overwrite=True."))
  else .ok (disk.write path "")

/-- `LedgerWriter.write` for one record after the other. -/
def writeRecords (path : String) : List DefectRecord → Disk → Disk
  | [], disk => disk
  | record :: records, disk => writeRecords path records (disk.append path (fmt.line record))

/-- The files of the catalog, one after the other, up to the first that raises. -/
def writeCatalog (dir : String) :
    List (String × Except Error (List Row)) → Disk → Except Error Unit × Disk
  | [], disk => (.ok (), disk)
  | (_, .error e) :: _, disk => (.error e, disk)
  | (name, .ok rows) :: files, disk =>
    writeCatalog dir files (disk.write (dir ++ "/" ++ name) (fmt.csv rows))

section Scenario

variable (sc : Scenario) (overwrite : Bool)

def ledgerPath : String := fmt.resolve sc.ledgerPath

def catalogDir : String := fmt.resolve sc.catalogDir

def telemetryPath : String := fmt.resolve sc.telemetryPath

/-- The rendering at the end of a run. -/
def render (capturedAt : String) (views : Views) (disk : Disk) : Except Error Unit × Disk :=
  match writeCatalog fmt (catalogDir fmt sc)
    (renderCatalog env sc.seed capturedAt fun t => views (.catalog, t)) disk with
  | (.error e, disk') => (.error e, disk')
  | (.ok (), disk') =>
    match renderTelemetry fun t => views (.telemetry, t) with
    | .error e => (.error e, disk')
    | .ok payload => (.ok (), disk'.write (telemetryPath fmt sc) (fmt.json payload))

/-- What `run_scenario` does with a twin and an open ledger. -/
def runOpened (twin : GoldenTwin) (disk : Disk) : Except Error Unit × Disk :=
  let run := runOn env sc twin
  let disk' := writeRecords fmt (ledgerPath fmt sc) run.2.ledger disk
  match run.1 with
  | .error e => (.error e, disk')
  | .ok () => render env fmt sc twin.capturedAt run.2.views disk'

/-- `run_scenario` -/
def runScenario (disk : Disk) : Except Error Unit × Disk :=
  match loadGoldenTwin env fmt disk (fmt.resolve sc.goldenTwin) with
  | .error e => (.error e, disk)
  | .ok twin =>
    match openLedger overwrite (ledgerPath fmt sc) disk with
    | .error e => (.error e, disk)
    | .ok opened => runOpened env fmt sc twin opened

end Scenario

/-! ## What is on the disk -/

/-- The text of a ledger with these records. -/
def ledgerText (records : List DefectRecord) : String := String.join (records.map fmt.line)

variable {env fmt}

/-- The records follow what the open ledger holds. -/
theorem writeRecords_write {path text : String} {records : List DefectRecord} {disk : Disk} :
    writeRecords fmt path records (disk.write path text) =
      disk.write path (text ++ ledgerText fmt records) := by
  induction records generalizing text with
  | nil =>
    have hempty : text ++ ledgerText fmt [] = text := by
      unfold ledgerText
      rw [List.map_nil, String.join_nil, String.append_empty]
    unfold writeRecords
    rw [hempty]
  | cons record records ih =>
    have hjoin : text ++ ledgerText fmt (record :: records) =
        text ++ fmt.line record ++ ledgerText fmt records := by
      unfold ledgerText
      rw [List.map_cons, String.join_cons, String.append_assoc]
    unfold writeRecords
    rw [Disk.append_write, ih, hjoin]

/-- The files that are rendered before the first that raises. -/
def Written (fmt : Formats) (dir : String) (done : List (String × List Row)) (disk : Disk) : Disk :=
  done.foldl (fun d file => d.write (dir ++ "/" ++ file.1) (fmt.csv file.2)) disk

/-- Only the files that are rendered change. -/
theorem Written.of_notMem {dir path : String} {done : List (String × List Row)} {disk : Disk}
    (h : ∀ file ∈ done, path ≠ dir ++ "/" ++ file.1) : Written fmt dir done disk path = disk path := by
  unfold Written
  induction done generalizing disk with
  | nil => rfl
  | cons file done ih =>
    rw [List.foldl_cons, ih fun f hf => h f (List.mem_cons_of_mem _ hf),
      Disk.write_of_ne (h file (List.mem_cons_self ..))]

/-- A catalog that is written: its first files, and the rest from where it raises. -/
theorem writeCatalog_eq {dir : String} {files : List (String × Except Error (List Row))}
    {disk disk' : Disk} {outcome : Except Error Unit}
    (h : writeCatalog fmt dir files disk = (outcome, disk')) :
    ∃ done rest, files = done.map (fun file => (file.1, .ok file.2)) ++ rest ∧
      disk' = Written fmt dir done disk ∧
      ((outcome = .ok () ∧ rest = []) ∨ ∃ e name, outcome = .error e ∧ rest.head? = some (name, .error e)) := by
  induction files generalizing disk with
  | nil =>
    cases h
    exact ⟨[], [], rfl, rfl, .inl ⟨rfl, rfl⟩⟩
  | cons file files ih =>
    obtain ⟨name, rendered⟩ := file
    cases rendered with
    | error e =>
      cases h
      exact ⟨[], _, rfl, rfl, .inr ⟨e, name, rfl, rfl⟩⟩
    | ok rows =>
      obtain ⟨done, rest, hfiles, hdisk, hrest⟩ := ih h
      refine ⟨(name, rows) :: done, rest, ?_, hdisk, hrest⟩
      rw [hfiles]
      rfl

/-! ## Calls that raise -/

/-- The twin is loaded and the ledger may be written. -/
def Begins (env : Env) (fmt : Formats) (sc : Scenario) (overwrite : Bool) (disk : Disk)
    (twin : GoldenTwin) : Prop :=
  loadGoldenTwin env fmt disk (fmt.resolve sc.goldenTwin) = .ok twin ∧
    (overwrite = true ∨ disk (ledgerPath fmt sc) = none)

/-- The paths of the files of the catalog. -/
def catalogPaths (fmt : Formats) (sc : Scenario) : List String :=
  ["routers.csv", "interfaces.csv", "links.csv", "devices.csv", "vpns.csv"].map
    (catalogDir fmt sc ++ "/" ++ ·)

/-- The ledger holds the records of the run, as far as it got. -/
def withLedger (env : Env) (fmt : Formats) (sc : Scenario) (twin : GoldenTwin) (disk : Disk) : Disk :=
  disk.write (ledgerPath fmt sc) (ledgerText fmt (runOn env sc twin).2.ledger)

/-- The files are the first of the catalog of the run, and the next one raises, or the telemetry
does when there is no next. -/
def RendersUpTo (env : Env) (sc : Scenario) (twin : GoldenTwin) (e : Error)
    (done : List (String × List Row)) : Prop :=
  ∃ rest, (renderCatalog env sc.seed twin.capturedAt fun t =>
      (runOn env sc twin).2.views (.catalog, t)) =
        done.map (fun file => (file.1, .ok file.2)) ++ rest ∧
    ((∃ name, rest.head? = some (name, .error e)) ∨
      rest = [] ∧ (renderTelemetry fun t => (runOn env sc twin).2.views (.telemetry, t)) = .error e)

section Raises

variable {sc : Scenario} {overwrite : Bool} {disk disk' : Disk} {e : Error} {twin : GoldenTwin}

theorem openLedger_eq_ok {path : String} {opened : Disk} (h : openLedger overwrite path disk = .ok opened) :
    (overwrite = true ∨ disk path = none) ∧ opened = disk.write path "" := by
  unfold openLedger at h
  split at h
  · cases h
  · next hopen =>
    refine ⟨?_, (Except.ok.inj h).symm⟩
    cases overwrite with
    | true => exact .inl rfl
    | false =>
      refine .inr (Option.not_isSome_iff_eq_none.mp fun hsome => ?_)
      exact hopen ⟨hsome, rfl⟩

theorem openLedger_of_begins (h : Begins env fmt sc overwrite disk twin) :
    openLedger overwrite (ledgerPath fmt sc) disk = .ok (disk.write (ledgerPath fmt sc) "") := by
  refine if_neg ?_
  rintro ⟨hsome, hoverwrite⟩
  rcases h.2 with h | h
  · rw [h] at hoverwrite
    cases hoverwrite
  · rw [h] at hsome
    cases hsome

/-- A call does not begin, or it runs on an empty ledger. -/
theorem runScenario_cases (h : runScenario env fmt sc overwrite disk = (.error e, disk')) :
    (¬∃ twin, Begins env fmt sc overwrite disk twin) ∧ disk' = disk ∨
      ∃ twin, Begins env fmt sc overwrite disk twin ∧
        runOpened env fmt sc twin (disk.write (ledgerPath fmt sc) "") = (.error e, disk') := by
  unfold runScenario at h
  split at h
  · next hload =>
    refine .inl ⟨?_, (Prod.mk.inj h).2.symm⟩
    rintro ⟨twin, hbegins⟩
    rw [hbegins.1] at hload
    cases hload
  · next twin hload =>
    split at h
    · next hopen =>
      refine .inl ⟨?_, (Prod.mk.inj h).2.symm⟩
      rintro ⟨twin', hbegins⟩
      rw [openLedger_of_begins hbegins] at hopen
      cases hopen
    · next opened hopen =>
      obtain ⟨hledger, rfl⟩ := openLedger_eq_ok hopen
      exact .inr ⟨twin, ⟨hload, hledger⟩, h⟩

/-- A rendering that raises has written the files up to there. -/
theorem render_raises {capturedAt : String} {views : Views}
    (h : render env fmt sc capturedAt views disk = (.error e, disk')) :
    ∃ done rest, (renderCatalog env sc.seed capturedAt fun t => views (.catalog, t)) =
        done.map (fun file => (file.1, .ok file.2)) ++ rest ∧
      disk' = Written fmt (catalogDir fmt sc) done disk ∧
      ((∃ name, rest.head? = some (name, .error e)) ∨
        rest = [] ∧ (renderTelemetry fun t => views (.telemetry, t)) = .error e) := by
  unfold render at h
  split at h
  · next heq =>
    cases h
    obtain ⟨done, rest, hfiles, hdisk, ⟨hok, -⟩ | ⟨e', name, he, hhead⟩⟩ := writeCatalog_eq heq
    · cases hok
    · cases he
      exact ⟨done, rest, hfiles, hdisk, .inl ⟨name, hhead⟩⟩
  · next heq =>
    obtain ⟨done, rest, hfiles, hdisk, ⟨-, hrest⟩ | ⟨e', name, he, -⟩⟩ := writeCatalog_eq heq
    · split at h
      · next htelemetry =>
        cases h
        exact ⟨done, rest, hfiles, hdisk, .inr ⟨hrest, htelemetry⟩⟩
      · cases h
    · cases he

/-- A run on an empty ledger that raises: its records are in the ledger, and files of the
catalog are there only when all defects have been applied. -/
theorem runOpened_raises
    (h : runOpened env fmt sc twin (disk.write (ledgerPath fmt sc) "") = (.error e, disk')) :
    (runOn env sc twin).1 = .error e ∧ disk' = withLedger env fmt sc twin disk ∨
      (runOn env sc twin).1 = .ok () ∧ ∃ done, RendersUpTo env sc twin e done ∧
        disk' = Written fmt (catalogDir fmt sc) done (withLedger env fmt sc twin disk) := by
  unfold runOpened at h
  dsimp only at h
  rw [writeRecords_write, String.empty_append] at h
  split at h
  · next heq =>
    cases h
    exact .inl ⟨heq, rfl⟩
  · next heq =>
    obtain ⟨done, rest, hfiles, hdisk, hrest⟩ := render_raises h
    exact .inr ⟨heq, done, ⟨rest, hfiles, hrest⟩, hdisk⟩

/-- Rendered files are files of the catalog. -/
theorem RendersUpTo.mem_catalogPaths {done : List (String × List Row)}
    (h : RendersUpTo env sc twin e done) {file : String × List Row} (hfile : file ∈ done) :
    catalogDir fmt sc ++ "/" ++ file.1 ∈ catalogPaths fmt sc := by
  obtain ⟨rest, hfiles, -⟩ := h
  have hnames := congrArg (List.map Prod.fst) hfiles
  rw [List.map_append, List.map_map] at hnames
  refine List.mem_map_of_mem ?_
  have hmem : file.1 ∈ done.map (Prod.fst ∘ fun file => (file.1, (.ok file.2 : Except Error (List Row)))) :=
    List.mem_map_of_mem (f := Prod.fst ∘ fun file => (file.1, (.ok file.2 : Except Error _))) hfile
  exact (congrArg (file.1 ∈ ·) hnames).mpr (List.mem_append_left _ hmem)

end Raises

/-- **What a call that raises leaves.** Files other than the ledger and the catalog stay as they
are, and so do all files when the call does not begin. Otherwise the ledger holds the records
that were written up to there; a file of the catalog is written only after all defects have been
applied, and these are the first of the files that a finished call writes. -/
theorem raises_leaves (env : Env) (fmt : Formats) (sc : Scenario) (overwrite : Bool)
    (disk disk' : Disk) (e : Error) (h : runScenario env fmt sc overwrite disk = (.error e, disk')) :
    (∀ path, path ≠ ledgerPath fmt sc → path ∉ catalogPaths fmt sc → disk' path = disk path) ∧
    ((¬∃ twin, Begins env fmt sc overwrite disk twin) → disk' = disk) ∧
    ∀ twin, Begins env fmt sc overwrite disk twin →
      (ledgerPath fmt sc ∉ catalogPaths fmt sc →
        disk' (ledgerPath fmt sc) = some (ledgerText fmt (runOn env sc twin).2.ledger)) ∧
      ((runOn env sc twin).1 ≠ .ok () → disk' = withLedger env fmt sc twin disk) ∧
      ((runOn env sc twin).1 = .ok () → ∃ done, RendersUpTo env sc twin e done ∧
        disk' = Written fmt (catalogDir fmt sc) done (withLedger env fmt sc twin disk)) := by
  obtain ⟨hnot, rfl⟩ | ⟨twin, hbegins, hrun⟩ := runScenario_cases h
  · exact ⟨fun _ _ _ => rfl, fun _ => rfl, fun twin hbegins => absurd ⟨twin, hbegins⟩ hnot⟩
  · have hwritten : ∃ done, disk' = Written fmt (catalogDir fmt sc) done (withLedger env fmt sc twin disk) ∧
        ∀ file ∈ done, catalogDir fmt sc ++ "/" ++ file.1 ∈ catalogPaths fmt sc := by
      obtain ⟨-, hdisk⟩ | ⟨-, done, hdone, hdisk⟩ := runOpened_raises hrun
      · exact ⟨[], hdisk, fun _ hfile => nomatch hfile⟩
      · exact ⟨done, hdisk, fun _ hfile => hdone.mem_catalogPaths hfile⟩
    obtain ⟨done, hdisk, hpaths⟩ := hwritten
    have houtside : ∀ path ∉ catalogPaths fmt sc, disk' path = withLedger env fmt sc twin disk path := by
      intro path hpath
      rw [hdisk]
      exact Written.of_notMem fun file hfile heq => hpath (heq ▸ hpaths file hfile)
    refine ⟨fun path hledger hpath => ?_, fun hnot => absurd ⟨twin, hbegins⟩ hnot, ?_⟩
    · rw [houtside path hpath]
      exact Disk.write_of_ne hledger
    · intro twin' hbegins'
      obtain rfl : twin' = twin := Except.ok.inj (hbegins'.1.symm.trans hbegins.1)
      refine ⟨fun hpath => (houtside _ hpath).trans Disk.write_self, fun hraises => ?_, fun hok => ?_⟩
      · obtain ⟨-, hdisk⟩ | ⟨hok, -⟩ := runOpened_raises hrun
        · exact hdisk
        · exact absurd hok hraises
      · obtain ⟨herror, -⟩ | ⟨-, hdone⟩ := runOpened_raises hrun
        · rw [hok] at herror
          cases herror
        · exact hdone

/-- Formats in which every file holds the twin of the samples. -/
def Formats.plain : Formats where
  parse _ := .ok .sample
  line r := r.defectId ++ "\n"
  csv _ := ""
  json _ := ""
  resolve path := path

/-- A scenario with a class that there is not. -/
def unknownClass : Scenario := .sample [.sample "u" "unknown" .catalog "PhysicalRouter" []]

/-- The twin and a ledger of an earlier run. -/
def Disk.sample : Disk := fun path =>
  if path = "twin.json" then some "\x7b\x7d" else if path = "ledger.jsonl" then some "d-0001\n" else none

theorem unknownClass_raises :
    ∃ e, (runScenario .plain .plain unknownClass true .sample).1 = .error e :=
  ⟨_, rfl⟩

theorem raises_leaves_sample : ∃ e disk',
    runScenario .plain .plain unknownClass true .sample = (.error e, disk') ∧
      disk' = withLedger .plain .plain unknownClass .sample .sample := by
  obtain ⟨e, he⟩ := unknownClass_raises
  have hload : loadGoldenTwin .plain .plain .sample "twin.json" = .ok .sample := by
    decide +kernel
  refine ⟨e, _, Prod.ext he rfl, ?_⟩
  refine ((raises_leaves .plain .plain unknownClass true .sample _ e (Prod.ext he rfl)).2.2 .sample
    ⟨hload, .inl rfl⟩).2.1 ?_
  decide +kernel

/-- The ledger of the earlier run is gone, though the call has raised before the first defect. -/
theorem unknownClass_truncates :
    ∃ e disk', runScenario .plain .plain unknownClass true .sample = (.error e, disk') ∧
      disk' "ledger.jsonl" ≠ Disk.sample "ledger.jsonl" := by
  obtain ⟨e, he⟩ := unknownClass_raises
  exact ⟨e, _, Prod.ext he rfl, by decide +kernel⟩

end GnnSandbox.Bench
