import Jqe.DatasetRoundTrip
/-!
# DatasetFiles — an export into a directory that holds a bundle, with its failures (`data/dataset.py`)

Each of the two files is written beside its place and then moved there, so a failure on the way keeps the old file.  What
is not kept is the candle file between its own replacement and that of the manifest.
-/
namespace Jqe
namespace Dataset

inductive Fault where
  | osError (message : String)
  | other (e : PyExc)
  deriving DecidableEq

def Fault.exc : Fault → PyExc
  | .osError message => .exception message
  | .other e => e

/-- What `except Exception` lets pass. -/
def Fault.interrupts : Fault → Bool
  | .osError _ => false
  | .other e => !e.isException

theorem Fault.exc_isException (fault : Fault) : fault.exc.isException = !fault.interrupts := by
  cases fault with
  | osError message => rfl
  | other e => exact (Bool.not_not _).symm

/-- What goes wrong while a file is put in place. -/
structure PublishFaults where
  write : Option (Fault × Bool) := none
  replace : Option Fault := none
  stays : Bool := false
  deriving DecidableEq

def PublishFaults.interrupts (f : PublishFaults) : Bool :=
  match f.write, f.replace with
  | some (fault, _), _ | none, some fault => fault.interrupts
  | none, none => false

/-- A place of the directory: its file, and whether the temporary one is beside it. -/
structure Place (α : Type) where
  file : Option α
  temporary : Bool
  deriving DecidableEq

section Place

variable {α : Type}

def Place.cleanUp (s : Place α) (stays : Bool) (e : PyExc) : Place α × Except PyExc Unit :=
  ({ s with temporary := s.temporary && stays }, .error e)

/-- An `OSError` is reported by a message of the code; nothing else is caught. -/
def Place.fail (s : Place α) (stays : Bool) (message : String) : Fault → Place α × Except PyExc Unit
  | .osError _ => s.cleanUp stays (.exception message)
  | .other e => (s, .error e)

/-- The `try` of `_write_candle_csv` and of `save_dataset_manifest`. -/
def Place.publish (s : Place α) (x : α) (message : String) (f : PublishFaults) : Place α × Except PyExc Unit :=
  match f.write, f.replace with
  | some (fault, created), _ => Place.fail { s with temporary := s.temporary || created } f.stays message fault
  | none, some fault => Place.fail { s with temporary := true } f.stays message fault
  | none, none => (⟨some x, false⟩, .ok ())

theorem Place.fail_spec (s : Place α) (stays : Bool) (message : String) (fault : Fault) :
    (s.fail stays message fault).1.file = s.file ∧
      ∃ e, (s.fail stays message fault).2 = .error e ∧ e.isException = !fault.interrupts := by
  cases fault with
  | osError text => exact ⟨rfl, _, rfl, rfl⟩
  | other e => exact ⟨rfl, _, rfl, (Bool.not_not _).symm⟩

/-- **A file is replaced or kept.** -/
theorem Place.publish_cases (s : Place α) (x : α) (message : String) (f : PublishFaults) :
    (f.write = none ∧ f.replace = none ∧ s.publish x message f = (⟨some x, false⟩, .ok ())) ∨
    ((f.write ≠ none ∨ f.replace ≠ none) ∧ (s.publish x message f).1.file = s.file ∧
      ∃ e, (s.publish x message f).2 = .error e ∧ e.isException = !f.interrupts) := by
  unfold publish PublishFaults.interrupts
  cases hwrite : f.write with
  | some failed => exact .inr ⟨.inl (Option.some_ne_none _), Place.fail_spec _ _ _ _⟩
  | none =>
    cases hreplace : f.replace with
    | some fault => exact .inr ⟨.inr (Option.some_ne_none _), Place.fail_spec _ _ _ _⟩
    | none => exact .inl ⟨rfl, rfl, rfl⟩

theorem Place.publish_error {s t : Place α} {x : α} {message : String} {f : PublishFaults} {e : PyExc}
    (h : s.publish x message f = (t, .error e)) : t.file = s.file ∧ e.isException = !f.interrupts := by
  rcases s.publish_cases x message f with ⟨-, -, heq⟩ | ⟨-, hfile, e', he', hexc⟩
  · rw [h] at heq
    cases heq
  · rw [h] at hfile he'
    cases he'
    exact ⟨hfile, hexc⟩

end Place

structure Directory where
  candles : Place (List CsvSymbol)
  manifest : Place ManifestPayload

/-- What goes wrong in a call of `save_dataset_manifest`. -/
structure SaveFaults where
  /-- raised while the payload is built, from a time that is out of range -/
  payload : Option PyExc := none
  directory : Option Fault := none
  publish : PublishFaults := {}

def SaveFaults.interrupts (f : SaveFaults) : Bool :=
  match f.payload, f.directory with
  | some e, _ => !e.isException
  | none, some fault => fault.interrupts
  | none, none => f.publish.interrupts

/-- What goes wrong in a call of `export_dataset_bundle`. -/
structure ExportFaults where
  directory : Option Fault := none
  candles : PublishFaults := {}
  manifest : SaveFaults := {}
  /-- `candles.csv` cannot be removed -/
  candlesStay : Bool := false

namespace Directory

section

variable [Host]

def writeCandleCsv (s : Place (List CsvSymbol)) (ordered : List Candle) (f : PublishFaults) :
    Place (List CsvSymbol) × Except PyExc Unit :=
  let checked : Except PyExc Unit := do
    require (!ordered.isEmpty) "Historical dataset cannot be exported because it is empty"
    let late ← unordered (ordered.map Candle.time)
    require (!late) "Historical dataset export requires strictly increasing timestamps"
  match checked with
  | .error e => (s, .error e)
  | .ok () =>
    -- the loop over the candles ends at a naive time, if nothing fails before
    if f.write = none ∧ (ordered.any fun c => c.time.isNaive) then
      Place.cleanUp { s with temporary := true } f.stays
        (.exception "Historical dataset export requires timezone-aware timestamps")
    else s.publish (csvText ordered) "Historical dataset candles could not be written" f

def saveDatasetManifest (s : Place ManifestPayload) (manifest : CandleDatasetManifest) (f : SaveFaults) :
    Place ManifestPayload × Except PyExc Unit :=
  match f.payload, f.directory with
  | some e, _ => (s, .error e)
  | none, some fault => (s, .error fault.exc)
  | none, none =>
    s.publish (Dataset.saveDatasetManifest manifest) "Historical dataset manifest could not be written" f.publish

/-- `export_dataset_bundle` once the manifest is verified. -/
def exportVerified (d : Directory) (candles : List Candle) (manifest : CandleDatasetManifest) (f : ExportFaults) :
    Directory × Except PyExc Unit :=
  match f.directory with
  | some (.osError _) => (d, .error (.exception "Historical dataset bundle directory could not be created"))
  | some (.other e) => (d, .error e)
  | none =>
    match writeCandleCsv d.candles candles f.candles with
    | (s, .error e) => ({ d with candles := s }, .error e)
    | (s, .ok ()) =>
      match saveDatasetManifest d.manifest manifest f.manifest with
      | (t, .ok ()) => (⟨s, t⟩, .ok ())
      | (t, .error e) =>
        if e.isException && !f.candlesStay then (⟨{ s with file := none }, t⟩, .error e) else (⟨s, t⟩, .error e)

def exportDatasetBundle (d : Directory) (candles : List Candle) (manifest : CandleDatasetManifest) (f : ExportFaults) :
    Directory × Except PyExc Unit :=
  match verifyDatasetManifest manifest candles with
  | .error e => (d, .error e)
  | .ok () => d.exportVerified candles manifest f

def loadDatasetBundle (d : Directory) : Except PyExc (List Candle × CandleDatasetManifest) :=
  match d.manifest.file with
  | none => .error (.exception "Historical dataset manifest could not be read")
  | some payload =>
    match d.candles.file with
    | some csv => Dataset.loadDatasetBundle ⟨csv, payload⟩
    | none => do
      let manifest ← loadDatasetManifest payload
      require (!blank manifest.source) "Historical dataset source is required"
      .error (.exception "Historical dataset could not be read")

/-! ### What an export that raises leaves behind -/

variable {manifest : CandleDatasetManifest} {r : List Candle × CandleDatasetManifest}

theorem saveDatasetManifest_error {s t : Place ManifestPayload} {f : SaveFaults} {e : PyExc}
    (h : saveDatasetManifest s manifest f = (t, .error e)) : t.file = s.file ∧ e.isException = !f.interrupts := by
  unfold saveDatasetManifest at h
  unfold SaveFaults.interrupts
  cases hpayload : f.payload with
  | some raised =>
    rw [hpayload] at h
    cases h
    exact ⟨rfl, (Bool.not_not _).symm⟩
  | none =>
    rw [hpayload] at h
    cases hdirectory : f.directory with
    | some fault =>
      rw [hdirectory] at h
      cases h
      exact ⟨rfl, fault.exc_isException⟩
    | none =>
      rw [hdirectory] at h
      exact Place.publish_error h

def RaisesFirst (candles : List Candle) (manifest : CandleDatasetManifest) (f : ExportFaults) : Prop :=
  verifyDatasetManifest manifest candles ≠ .ok () ∨ f.directory ≠ none ∨ f.candles.write ≠ none ∨ f.candles.replace ≠ none

theorem writeCandleCsv_cases {candles : List Candle} (hverify : verifyDatasetManifest manifest candles = .ok ())
    (s : Place (List CsvSymbol)) (f : PublishFaults) :
    (f.write = none ∧ f.replace = none ∧ writeCandleCsv s candles f = (⟨some (csvText candles), false⟩, .ok ())) ∨
    ((f.write ≠ none ∨ f.replace ≠ none) ∧ (writeCandleCsv s candles f).1.file = s.file ∧
      ∃ e, (writeCandleCsv s candles f).2 = .error e ∧ e.isException = !f.interrupts) := by
  have hexport := exportable_of_verify hverify
  have hempty : candles.isEmpty = false := by simpa using hexport.nonempty
  have hnaive : (candles.any fun c => c.time.isNaive) = false := by
    rw [List.any_eq_false]
    intro c hc
    rw [hexport.aware c hc]
    exact Bool.false_ne_true
  have horder : unordered (candles.map Candle.time) = .ok false := unordered_of_verify hverify
  have heq : writeCandleCsv s candles f =
      s.publish (csvText candles) "Historical dataset candles could not be written" f := by
    unfold writeCandleCsv
    rw [hempty, horder, hnaive]
    exact if_neg fun h => Bool.false_ne_true h.2
  rw [heq]
  exact s.publish_cases _ _ _

/-- **An export that raises leaves both files as they were, or `candles.csv` new or gone beside the old manifest.** -/
theorem exportDatasetBundle_error {d d' : Directory} {candles : List Candle} {f : ExportFaults} {e : PyExc}
    (h : exportDatasetBundle d candles manifest f = (d', .error e)) :
    d'.manifest.file = d.manifest.file ∧
      ((RaisesFirst candles manifest f ∧ d'.candles.file = d.candles.file) ∨
       (¬RaisesFirst candles manifest f ∧ d'.candles.file =
          if f.manifest.interrupts || f.candlesStay then some (csvText candles) else none)) := by
  unfold exportDatasetBundle at h
  cases hverify : verifyDatasetManifest manifest candles with
  | error refusal =>
    rw [hverify] at h
    cases h
    exact ⟨rfl, .inl ⟨.inl (by rw [hverify]; exact fun h => nomatch h), rfl⟩⟩
  | ok verified =>
  rw [hverify] at h
  dsimp only [exportVerified] at h
  cases hdirectory : f.directory with
  | some fault =>
    rw [hdirectory] at h
    have hfirst : RaisesFirst candles manifest f := .inr (.inl (by rw [hdirectory]; exact Option.some_ne_none _))
    cases fault <;> cases h <;> exact ⟨rfl, .inl ⟨hfirst, rfl⟩⟩
  | none =>
  rw [hdirectory] at h
  rcases writeCandleCsv_cases hverify d.candles f.candles with ⟨hwrite, hreplace, heq⟩ | ⟨hfaults, hfile, e', he', -⟩
  · -- the candles are new, and the manifest is not saved
    rw [heq] at h
    have hlate : ¬RaisesFirst candles manifest f := by
      rintro (hnot | hnot | hnot | hnot)
      · exact hnot hverify
      · exact hnot hdirectory
      · exact hnot hwrite
      · exact hnot hreplace
    cases hsave : saveDatasetManifest d.manifest manifest f.manifest with
    | mk t result =>
    rw [hsave] at h
    cases result with
    | ok saved => cases h
    | error raised =>
      obtain ⟨hkept, hexc⟩ := saveDatasetManifest_error hsave
      dsimp only at h
      rw [hexc] at h
      rw [← Bool.not_or] at h
      cases hstays : f.manifest.interrupts || f.candlesStay <;>
        · rw [hstays] at h
          cases h
          exact ⟨hkept, .inr ⟨hlate, rfl⟩⟩
  · cases hresult : writeCandleCsv d.candles candles f.candles with
    | mk s result =>
    rw [hresult] at h hfile he'
    dsimp only at he'
    subst he'
    cases h
    exact ⟨rfl, .inl ⟨.inr (.inr hfaults), hfile⟩⟩

/-! ### What load gives then -/

/-- The candles that load reads back from the text of `candles.csv`. -/
def restoredCandles (csv : List CsvSymbol) (source : String) : Except PyExc (List Candle) := do
  let candles ← loadCandleCsv csv source
  let rows ← dictReader csv
  require (rows.length == candles.length) "Historical dataset bundle row count is inconsistent"
  (candles.zip rows).mapM restore

theorem loadDatasetBundle_ok_iff {files : BundleFiles} :
    Dataset.loadDatasetBundle files = .ok r ↔ loadDatasetManifest files.manifest = .ok r.2 ∧
      restoredCandles files.candles r.2.source = .ok r.1 ∧ verifyDatasetManifest r.2 r.1 = .ok () := by
  constructor
  · intro h
    obtain ⟨manifest, hmanifest, h⟩ := bind_ok h
    obtain ⟨candles, hcandles, h⟩ := bind_ok h
    obtain ⟨rows, hrows, h⟩ := bind_ok h
    obtain ⟨hlength, h⟩ := require_bind.1 h
    obtain ⟨restored, hrestored, h⟩ := bind_ok h
    obtain ⟨⟨⟩, hverify, h⟩ := bind_ok h
    cases h
    refine ⟨hmanifest, ?_, hverify⟩
    unfold restoredCandles
    rw [hcandles]
    show (dictReader files.candles >>= _) = _
    rw [hrows]
    exact require_bind.2 ⟨hlength, hrestored⟩
  · rintro ⟨hmanifest, h, hverify⟩
    obtain ⟨candles, hcandles, h⟩ := bind_ok h
    obtain ⟨rows, hrows, h⟩ := bind_ok h
    obtain ⟨hlength, hrestored⟩ := require_bind.1 h
    unfold Dataset.loadDatasetBundle
    rw [hmanifest]
    show (loadCandleCsv files.candles r.2.source >>= _) = _
    rw [hcandles]
    show (dictReader files.candles >>= _) = _
    rw [hrows]
    refine require_bind.2 ⟨hlength, ?_⟩
    rw [hrestored]
    show (verifyDatasetManifest r.2 r.1 >>= _) = _
    rw [hverify]
    rfl

theorem loadDatasetBundle_gone {d : Directory} (h : d.candles.file = none) : d.loadDatasetBundle ≠ .ok r := by
  unfold loadDatasetBundle
  rw [h]
  intro hload
  cases hmanifest : d.manifest.file with
  | none =>
    rw [hmanifest] at hload
    cases hload
  | some payload =>
    rw [hmanifest] at hload
    obtain ⟨manifest, -, hload⟩ := bind_ok hload
    obtain ⟨-, hload⟩ := require_bind.1 hload
    cases hload

theorem files_of_load {d : Directory} (h : d.loadDatasetBundle = .ok r) :
    ∃ csv payload, d.candles.file = some csv ∧ d.manifest.file = some payload ∧
      Dataset.loadDatasetBundle ⟨csv, payload⟩ = .ok r := by
  cases hcandles : d.candles.file with
  | none => exact absurd h (loadDatasetBundle_gone hcandles)
  | some csv =>
    unfold loadDatasetBundle at h
    rw [hcandles] at h
    cases hmanifest : d.manifest.file with
    | none =>
      rw [hmanifest] at h
      cases h
    | some payload =>
      rw [hmanifest] at h
      exact ⟨csv, payload, rfl, rfl, h⟩

/-- **A failed export keeps a bundle exactly when it raises before `candles.csv` is replaced**, or `candles.csv` is not removed and
reads back as the old candles. -/
theorem failed_export_keeps_iff {d d' : Directory} {old : List Candle × CandleDatasetManifest}
    {candles : List Candle} {manifest : CandleDatasetManifest} {f : ExportFaults} {e : PyExc}
    (hold : d.loadDatasetBundle = .ok old) (hraise : exportDatasetBundle d candles manifest f = (d', .error e)) :
    d'.loadDatasetBundle = .ok old ↔ RaisesFirst candles manifest f ∨
      ((f.manifest.interrupts || f.candlesStay) = true ∧ restoredCandles (csvText candles) old.2.source = .ok old.1) := by
  obtain ⟨csv, payload, hcsv, hpayload, hload⟩ := files_of_load hold
  obtain ⟨hmanifest, -, hverify⟩ := loadDatasetBundle_ok_iff.1 hload
  obtain ⟨hkept, ⟨hfirst, hcandles⟩ | ⟨hlate, hcandles⟩⟩ := exportDatasetBundle_error hraise
  · refine ⟨fun _ => .inl hfirst, fun _ => ?_⟩
    unfold loadDatasetBundle
    rw [hkept, hpayload, hcandles, hcsv]
    exact hload
  · cases hstay : f.manifest.interrupts || f.candlesStay with
    | false =>
      rw [hstay] at hcandles
      refine ⟨fun h => absurd h (loadDatasetBundle_gone hcandles), ?_⟩
      rintro (hfirst | ⟨hnot, -⟩)
      · exact absurd hfirst hlate
      · cases hnot
    | true =>
      rw [hstay, if_pos rfl] at hcandles
      have hnew : d'.loadDatasetBundle = Dataset.loadDatasetBundle ⟨csvText candles, payload⟩ := by
        unfold loadDatasetBundle
        rw [hkept, hpayload, hcandles]
      rw [hnew, loadDatasetBundle_ok_iff]
      constructor
      · rintro ⟨-, hrestored, -⟩
        exact .inr ⟨rfl, hrestored⟩
      · rintro (hfirst | ⟨-, hrestored⟩)
        · exact absurd hfirst hlate
        · exact ⟨hmanifest, hrestored, hverify⟩

theorem export_verified {d : Directory} {candles : List Candle} {f : ExportFaults}
    (h : verifyDatasetManifest manifest candles = .ok ()) :
    exportDatasetBundle d candles manifest f = d.exportVerified candles manifest f := by
  unfold exportDatasetBundle
  rw [h]

end

def flatDirectory : Directory :=
  ⟨⟨some (@csvText plainHost (flatCandles "deriv")), false⟩,
    ⟨some (@Dataset.saveDatasetManifest plainHost (flatManifest "deriv")), false⟩⟩

theorem load_flatDirectory :
    @loadDatasetBundle plainHost flatDirectory = .ok ((flatCandles "deriv"), flatManifest "deriv") :=
  @load_of_loadable plainHost _ _ (verify_flat "deriv") loadable_flat

def diskFull : PublishFaults := { write := some (.osError "No space left on device", true) }

theorem failed_export_keeps_iff_diskFull : ∃ d' e,
    @exportDatasetBundle plainHost flatDirectory (flatCandles "oanda") (flatManifest "oanda") { candles := diskFull } =
      (d', .error e) ∧
    @loadDatasetBundle plainHost d' = .ok ((flatCandles "deriv"), flatManifest "deriv") := by
  have hexport : @exportDatasetBundle plainHost flatDirectory (flatCandles "oanda") (flatManifest "oanda")
      { candles := diskFull } =
      (flatDirectory, .error (.exception "Historical dataset candles could not be written")) :=
    @export_verified plainHost _ _ _ _ (verify_flat _)
  exact ⟨_, _, hexport, (@failed_export_keeps_iff plainHost _ _ _ _ _ _ _ load_flatDirectory hexport).2
    (.inl (.inr (.inr (.inl (Option.some_ne_none _)))))⟩

/-- **An export that cannot write its manifest destroys the bundle that was there.** -/
theorem failed_export_destroys : ∃ d' e,
    @loadDatasetBundle plainHost flatDirectory = .ok ((flatCandles "deriv"), flatManifest "deriv") ∧
    @exportDatasetBundle plainHost flatDirectory (flatCandles "oanda") (flatManifest "oanda")
      { manifest := { publish := diskFull } } = (d', .error e) ∧
    d'.candles.file = none ∧
    @loadDatasetBundle plainHost d' ≠ .ok ((flatCandles "deriv"), flatManifest "deriv") := by
  have hexport : @exportDatasetBundle plainHost flatDirectory (flatCandles "oanda") (flatManifest "oanda")
      { manifest := { publish := diskFull } } =
      (⟨⟨none, false⟩, flatDirectory.manifest⟩, .error (.exception "Historical dataset manifest could not be written")) :=
    @export_verified plainHost _ _ _ _ (verify_flat _)
  exact ⟨_, _, load_flatDirectory, hexport, rfl, @loadDatasetBundle_gone plainHost _ _ rfl⟩

end Directory

end Dataset
end Jqe
