import BytecodeAssembler.Session
import Mathlib.Data.Rat.Floor

/-!
# The image of a compiled file

A compiled file is complete when it holds its image: the magic number, the time in four bytes, least
byte first, and the body (`OutputFile.image`).  What is left of it when something goes wrong depends
on two things of the outside world, the clock and the failure of the output, and on the order in
which they are met: the file is opened, the magic number is written, the time is laid out, and only
then the rest is written.  `OutputFile.Ends` says what comes of each combination.

A file is opened only for a session whose code object was built (`Session.Ready`); up to there the
outside world is not looked at.
-/

namespace BytecodeAssembler

namespace OutputFile

/-! ## Numbers as bytes -/

/-- The bytes of a number, least byte first. -/
def littleEndian : Nat → Nat → List UInt8
  | 0, _ => []
  | count + 1, n => UInt8.ofNat n :: littleEndian count (n / 256)

/-- The number that some bytes stand for, least byte first. -/
def ofLittleEndian : List UInt8 → Nat
  | [] => 0
  | b :: bs => b.toNat + 256 * ofLittleEndian bs

theorem length_littleEndian (count n : Nat) : (littleEndian count n).length = count := by
  induction count generalizing n with
  | zero => rfl
  | succ count ih => rw [littleEndian, List.length_cons, ih]

/-- A number that fits is read back. -/
theorem ofLittleEndian_littleEndian {count n : Nat} (h : n < 256 ^ count) :
    ofLittleEndian (littleEndian count n) = n := by
  induction count generalizing n with
  | zero =>
    rw [Nat.pow_zero] at h
    rw [littleEndian, ofLittleEndian]
    omega
  | succ count ih =>
    have hhigh : n / 256 < 256 ^ count := by
      rw [Nat.pow_succ] at h
      omega
    have hlow : (UInt8.ofNat n).toNat = n % 256 := rfl
    rw [littleEndian, ofLittleEndian, ih hhigh, hlow]
    omega

/-- **The image of a compiled file.** -/
def image (seconds : Nat) (body : List UInt8) : List UInt8 :=
  magic ++ littleEndian 4 seconds ++ body

theorem take_four_image (seconds : Nat) (body : List UInt8) :
    (image seconds body).take 4 = magic := by
  rw [image, List.append_assoc]
  exact List.take_left' rfl

theorem take_eight_image (seconds : Nat) (body : List UInt8) :
    (image seconds body).take 8 = magic ++ littleEndian 4 seconds := by
  apply List.take_left'
  rw [List.length_append, length_littleEndian]
  rfl

/-- The time is read back from its place in the image. -/
theorem ofLittleEndian_image {seconds : Nat} (h : seconds < 2 ^ 32) (body : List UInt8) :
    ofLittleEndian (((image seconds body).drop 4).take 4) = seconds := by
  have hdrop : (image seconds body).drop 4 = littleEndian 4 seconds ++ body := by
    rw [image, List.append_assoc]
    exact List.drop_left' rfl
  rw [hdrop, List.take_left' (length_littleEndian 4 seconds)]
  exact ofLittleEndian_littleEndian h

/-! ## The clock -/

/-- A time cut toward zero. -/
def towardZero (now : ℚ) : Int :=
  if 0 ≤ now then ⌊now⌋ else ⌈now⌉

theorem seconds_eq_towardZero (now : ℚ) : seconds now = towardZero now := by
  unfold seconds towardZero
  split
  · rename_i h
    rw [Rat.floor_def', Int.tdiv_eq_ediv_of_nonneg (Rat.num_nonneg.mpr h)]
  · rename_i h
    have hnum : 0 ≤ -now.num := by
      have hneg := Rat.num_neg.mpr (not_le.mp h)
      omega
    rw [Rat.ceil_def', ← Int.tdiv_eq_ediv_of_nonneg hnum, Int.neg_tdiv, neg_neg]

/-- Whether a time can be laid out in four bytes. -/
def Stampable (now : ℚ) : Prop :=
  0 ≤ towardZero now ∧ towardZero now < 2 ^ 32

theorem stamp?_of_stampable {now : ℚ} (h : Stampable now) :
    stamp? now = some (littleEndian 4 (towardZero now).toNat) := by
  simp only [stamp?, seconds_eq_towardZero, littleEndian, Nat.div_div_eq_div_mul]
  exact if_pos (by simpa [Stampable] using h)

theorem stamp?_of_not_stampable {now : ℚ} (h : ¬ Stampable now) : stamp? now = none := by
  simp only [stamp?, seconds_eq_towardZero]
  exact if_neg (by simpa [Stampable] using h)

/-! ## Failures of the output -/

/-- The output fails at a stage, if writing comes to it. -/
def FailsAt (world : World) (stage : OutputStage) : Prop :=
  ∃ failure, world.failure = some failure ∧ failure.stage = stage

/-- The error that the failure of the output raises, if writing comes to it. -/
def raised? (world : World) : Option FileError :=
  world.failure.map OutputFailure.error

/-- The output fails at one stage at most. -/
theorem FailsAt.not {world : World} {stage stage' : OutputStage} (h : FailsAt world stage)
    (hne : stage ≠ stage') : ¬ FailsAt world stage' := by
  rintro ⟨failure', hf', rfl⟩
  obtain ⟨failure, hf, rfl⟩ := h
  exact hne (by rw [Option.some.inj (hf.symm.trans hf')])

theorem errorAt?_of_failsAt {world : World} {stage : OutputStage} (h : FailsAt world stage) :
    errorAt? world stage = raised? world := by
  obtain ⟨failure, hf, hs⟩ := h
  simp [errorAt?, raised?, hf, hs]

theorem errorAt?_of_not_failsAt {world : World} {stage : OutputStage}
    (h : ¬ FailsAt world stage) : errorAt? world stage = none := by
  unfold errorAt?
  cases hf : world.failure with
  | none => rfl
  | some failure => exact if_neg fun hs => h ⟨failure, hf, hs⟩

theorem FailsAt.errorAt?_eq_none {world : World} {stage stage' : OutputStage}
    (h : FailsAt world stage) (hne : stage ≠ stage') : errorAt? world stage' = none :=
  errorAt?_of_not_failsAt (h.not hne)

theorem exists_raised_of_failsAt {world : World} {stage : OutputStage} (h : FailsAt world stage) :
    ∃ failure, world.failure = some failure ∧ raised? world = some failure.error := by
  obtain ⟨failure, hf, -⟩ := h
  exact ⟨failure, hf, by rw [raised?, hf, Option.map_some]⟩

/-- Writing comes to the failure of the output: the stages up to the magic number are met in any
case, and those after it when the time can be laid out. -/
def Hit (world : World) : Prop :=
  FailsAt world .opening ∨ FailsAt world (.writing 0) ∨
    Stampable world.now ∧
      (FailsAt world (.writing 1) ∨ FailsAt world (.writing 2) ∨ FailsAt world .closing)

/-! ## What writing leaves -/

section Writing

variable {name : String} {body : List UInt8} {world : World}

theorem write_of_opening (h : FailsAt world .opening) :
    write name body world = ([], none, raised? world) := by
  obtain ⟨failure, -, hraised⟩ := exists_raised_of_failsAt h
  simp only [write, errorAt?_of_failsAt h, hraised]

theorem write_of_first (h : FailsAt world (.writing 0)) :
    write name body world = ([⟨name, []⟩], none, raised? world) := by
  have hopen : errorAt? world .opening = none := h.errorAt?_eq_none (by decide)
  obtain ⟨failure, -, hraised⟩ := exists_raised_of_failsAt h
  simp only [write, hopen, errorAt?_of_failsAt h, hraised]

/-- A time that cannot be laid out ends the writing after the magic number, whatever failure was to
come. -/
theorem write_of_not_stampable (hopen : ¬ FailsAt world .opening)
    (hfirst : ¬ FailsAt world (.writing 0)) (h : ¬ Stampable world.now) :
    write name body world = ([⟨name, magic⟩], some .stampRange, none) := by
  simp only [write, errorAt?_of_not_failsAt hopen, errorAt?_of_not_failsAt hfirst,
    stamp?_of_not_stampable h]

theorem write_of_second (h : Stampable world.now) (hf : FailsAt world (.writing 1)) :
    write name body world
      = ([⟨name, (image (towardZero world.now).toNat body).take 4⟩], none, raised? world) := by
  have hopen : errorAt? world .opening = none := hf.errorAt?_eq_none (by decide)
  have hfirst : errorAt? world (.writing 0) = none := hf.errorAt?_eq_none (by decide)
  obtain ⟨failure, -, hraised⟩ := exists_raised_of_failsAt hf
  simp only [write, hopen, hfirst, stamp?_of_stampable h, errorAt?_of_failsAt hf, hraised,
    take_four_image]

theorem write_of_third (h : Stampable world.now) (hf : FailsAt world (.writing 2)) :
    write name body world
      = ([⟨name, (image (towardZero world.now).toNat body).take 8⟩], none, raised? world) := by
  have hopen : errorAt? world .opening = none := hf.errorAt?_eq_none (by decide)
  have hfirst : errorAt? world (.writing 0) = none := hf.errorAt?_eq_none (by decide)
  have hsecond : errorAt? world (.writing 1) = none := hf.errorAt?_eq_none (by decide)
  obtain ⟨failure, -, hraised⟩ := exists_raised_of_failsAt hf
  simp only [write, hopen, hfirst, stamp?_of_stampable h, hsecond, errorAt?_of_failsAt hf,
    hraised, take_eight_image]

/-- Where no part fails to be written, the file holds its image before it is closed. -/
theorem write_of_parts (h : Stampable world.now) (hopen : ¬ FailsAt world .opening)
    (hparts : ∀ part, part < 3 → ¬ FailsAt world (.writing part)) :
    write name body world
      = ([⟨name, image (towardZero world.now).toNat body⟩], none, errorAt? world .closing) := by
  have hfirst := errorAt?_of_not_failsAt (hparts 0 (by decide))
  have hsecond := errorAt?_of_not_failsAt (hparts 1 (by decide))
  have hthird := errorAt?_of_not_failsAt (hparts 2 (by decide))
  simp only [write, errorAt?_of_not_failsAt hopen, hfirst, stamp?_of_stampable h, hsecond, hthird,
    image]

theorem write_of_closing (h : Stampable world.now) (hf : FailsAt world .closing) :
    write name body world
      = ([⟨name, image (towardZero world.now).toNat body⟩], none, raised? world) := by
  rw [write_of_parts h (hf.not (by decide)) fun part _ => hf.not (by simp),
    errorAt?_of_failsAt hf]

theorem write_of_not_hit (h : Stampable world.now) (hhit : ¬ Hit world) :
    write name body world = ([⟨name, image (towardZero world.now).toNat body⟩], none, none) := by
  simp only [Hit, h, true_and, not_or] at hhit
  obtain ⟨hopen, hfirst, hsecond, hthird, hclosing⟩ := hhit
  rw [write_of_parts h hopen, errorAt?_of_not_failsAt hclosing]
  intro part hpart
  match part, hpart with
  | 0, _ => exact hfirst
  | 1, _ => exact hsecond
  | 2, _ => exact hthird

/-- A failure that is hit raises its error, and there is no fault beside it. -/
theorem write_snd_of_hit (h : Hit world) :
    (write name body world).2 = (none, raised? world) := by
  rcases h with hopen | hfirst | ⟨ht, hsecond | hthird | hclosing⟩
  · rw [write_of_opening hopen]
  · rw [write_of_first hfirst]
  · rw [write_of_second ht hsecond]
  · rw [write_of_third ht hthird]
  · rw [write_of_closing ht hclosing]

/-- Otherwise no error is raised. -/
theorem write_error_of_not_hit (h : ¬ Hit world) : (write name body world).2.2 = none := by
  by_cases ht : Stampable world.now
  · rw [write_of_not_hit ht h]
  · rw [write_of_not_stampable (fun hf => h (.inl hf)) (fun hf => h (.inr (.inl hf))) ht]

/-- One file is opened at most, and it has the name that was asked for. -/
theorem write_files (name : String) (body : List UInt8) (world : World) :
    (write name body world).1 = [] ∨ ∃ bytes, (write name body world).1 = [⟨name, bytes⟩] := by
  by_cases hhit : Hit world
  · rcases hhit with hopen | hfirst | ⟨ht, hsecond | hthird | hclosing⟩
    · exact .inl (by rw [write_of_opening hopen])
    · exact .inr ⟨_, by rw [write_of_first hfirst]⟩
    · exact .inr ⟨_, by rw [write_of_second ht hsecond]⟩
    · exact .inr ⟨_, by rw [write_of_third ht hthird]⟩
    · exact .inr ⟨_, by rw [write_of_closing ht hclosing]⟩
  · by_cases ht : Stampable world.now
    · exact .inr ⟨_, by rw [write_of_not_hit ht hhit]⟩
    · have hopen : ¬ FailsAt world .opening := fun h => hhit (.inl h)
      have hfirst : ¬ FailsAt world (.writing 0) := fun h => hhit (.inr (.inl h))
      exact .inr ⟨_, by rw [write_of_not_stampable hopen hfirst ht]⟩

end Writing

/-- The fault that is left of a fault and an error once the error is reported. -/
def reportedFault : Option Fault × Option FileError → Option Fault
  | (_, some e) => some (.report (.outputFailed e.code e.reason))
  | (fault, none) => fault

/-- **What comes of writing a compiled file**, by the clock and the failure of the output. -/
structure Ends (name : String) (body : List UInt8) (world : World) (files : List OutputFile)
    (fault : Option Fault) : Prop where
  /-- Writing succeeds just when the time can be laid out and no failure is hit. -/
  succeeds : fault = none ↔ Stampable world.now ∧ ¬ Hit world
  /-- Then the file holds its image. -/
  whole : fault = none → files = [⟨name, image (towardZero world.now).toNat body⟩]
  /-- The time is read back from the image. -/
  readBack : Stampable world.now →
    (ofLittleEndian (((image (towardZero world.now).toNat body).drop 4).take 4) : Int)
      = towardZero world.now
  unopened : FailsAt world .opening → files = []
  empty : FailsAt world (.writing 0) → files = [⟨name, []⟩]
  unstamped : ¬ FailsAt world .opening → ¬ FailsAt world (.writing 0) → ¬ Stampable world.now →
    files = [⟨name, magic⟩] ∧ fault = some .stampRange
  second : Stampable world.now → FailsAt world (.writing 1) →
    files = [⟨name, (image (towardZero world.now).toNat body).take 4⟩]
  third : Stampable world.now → FailsAt world (.writing 2) →
    files = [⟨name, (image (towardZero world.now).toNat body).take 8⟩]
  closing : Stampable world.now → FailsAt world .closing →
    files = [⟨name, image (towardZero world.now).toNat body⟩]
  /-- A failure that is hit is reported, and the program exits with its code for reports. -/
  reported : Hit world → ∃ failure f, world.failure = some failure ∧ fault = some f ∧
    f = .report (.outputFailed failure.code failure.reason) ∧ f.kind = .exit ∧
    f.message? = some (Text.ofString "-2")

/-- What comes of writing, with the error of a failure reported. -/
theorem write_ends (name : String) (body : List UInt8) (world : World) :
    Ends name body world (write name body world).1 (reportedFault (write name body world).2) := by
  have hreport : Hit world → ∃ failure, world.failure = some failure ∧
      reportedFault (write name body world).2
        = some (.report (.outputFailed failure.code failure.reason)) := by
    intro hhit
    obtain ⟨stage, hstage⟩ : ∃ stage, FailsAt world stage := by
      rcases hhit with h | h | ⟨-, h | h | h⟩ <;> exact ⟨_, h⟩
    obtain ⟨failure, hfailure, hraised⟩ := exists_raised_of_failsAt hstage
    refine ⟨failure, hfailure, ?_⟩
    rw [write_snd_of_hit hhit, hraised]
    rfl
  have hsucceeds : reportedFault (write name body world).2 = none ↔
      Stampable world.now ∧ ¬ Hit world := by
    constructor
    · intro hnone
      have hhit : ¬ Hit world := by
        intro hhit
        obtain ⟨failure, -, hsome⟩ := hreport hhit
        rw [hnone] at hsome
        cases hsome
      refine ⟨by_contra fun ht => ?_, hhit⟩
      rw [write_of_not_stampable (fun h => hhit (.inl h)) (fun h => hhit (.inr (.inl h))) ht]
        at hnone
      cases hnone
    · rintro ⟨ht, hhit⟩
      rw [write_of_not_hit ht hhit]
      rfl
  exact {
    succeeds := hsucceeds
    whole := fun hnone => by
      obtain ⟨ht, hhit⟩ := hsucceeds.mp hnone
      rw [write_of_not_hit ht hhit]
    readBack := fun ht => by
      obtain ⟨hlow, hhigh⟩ := ht
      rw [ofLittleEndian_image (by omega) body]
      omega
    unopened := fun h => by rw [write_of_opening h]
    empty := fun h => by rw [write_of_first h]
    unstamped := fun hopen hfirst ht => by
      rw [write_of_not_stampable hopen hfirst ht]
      exact ⟨rfl, rfl⟩
    second := fun ht h => by rw [write_of_second ht h]
    third := fun ht h => by rw [write_of_third ht h]
    closing := fun ht h => by rw [write_of_closing ht h]
    reported := fun hhit => by
      obtain ⟨failure, hfailure, hfault⟩ := hreport hhit
      exact ⟨failure, _, hfailure, hfault, rfl, rfl, rfl⟩ }

end OutputFile

/-! ## Running a session -/

/-- A step came to its end if it ended neither in a fault nor in an error. -/
theorem Outcome.completed_iff (o : Outcome) :
    o.completed = true ↔ o.fault = none ∧ o.error = none := by
  simp [completed]

namespace Session

/-- The outcome of writing: an error is taken, and its report is the fault. -/
theorem write_eq (s : Session) (world : World) (dump : Option CodeObject → List UInt8) :
    s.write world dump = ended s []
      (OutputFile.write s.listing.targetName (dump s.object) world).1
      (OutputFile.reportedFault
        (OutputFile.write s.listing.targetName (dump s.object) world).2) := by
  unfold write reported writeFile
  by_cases hhit : OutputFile.Hit world
  · have hsnd : (OutputFile.write s.listing.targetName (dump s.object) world).2 = _ :=
      OutputFile.write_snd_of_hit hhit
    have hnothing : Text.ofString "" = [] := by
      rw [Text.ofString, String.toList_empty]
      rfl
    rcases hw : OutputFile.write s.listing.targetName (dump s.object) world with ⟨files, fault, error⟩
    rw [hw] at hsnd
    obtain ⟨rfl, rfl⟩ := Prod.mk.inj hsnd
    cases OutputFile.raised? world with
    | none => rfl
    | some e => simp [ended, OutputFile.reportedFault, hnothing]
  · have hnone : (OutputFile.write s.listing.targetName (dump s.object) world).2.2 = none :=
      OutputFile.write_error_of_not_hit hhit
    rcases hw : OutputFile.write s.listing.targetName (dump s.object) world with ⟨files, fault, error⟩
    rw [hw] at hnone
    obtain rfl : error = none := hnone
    rfl

section Steps

variable {heading : String} {step : Session → Outcome} {o : Outcome}

theorem next_of_completed (h : o.completed = true) :
    (next heading step o).session = (step o.session).session ∧
      (next heading step o).files = o.files ++ (step o.session).files ∧
      (next heading step o).fault = (step o.session).fault ∧
      (next heading step o).error = (step o.session).error := by
  simp [next, h]

theorem next_of_not_completed (h : o.completed = false) : next heading step o = o := by
  simp [next, h]

/-- A step that writes no file adds none. -/
theorem next_files (hstep : (step o.session).files = []) :
    (next heading step o).files = o.files := by
  cases h : o.completed with
  | true => rw [(next_of_completed h).2.1, hstep, List.append_nil]
  | false => rw [next_of_not_completed h]

/-- A step that leaves no error to others adds none. -/
theorem next_error (ho : o.error = none) (hstep : (step o.session).error = none) :
    (next heading step o).error = none := by
  cases h : o.completed with
  | true => rw [(next_of_completed h).2.2.2, hstep]
  | false => rw [next_of_not_completed h, ho]

theorem next_completed_iff :
    (next heading step o).completed = true ↔
      o.completed = true ∧ (step o.session).completed = true := by
  cases h : o.completed with
  | true =>
    obtain ⟨-, -, hfault, herror⟩ := @next_of_completed heading step o h
    simp [Outcome.completed, hfault, herror]
  | false => simp [next_of_not_completed h, h]

end Steps

theorem build_files (s : Session) (order : SetOrder) : (s.build order).files = [] := by
  unfold build
  split <;> rfl

theorem build_error (s : Session) (order : SetOrder) : (s.build order).error = none := by
  unfold build
  split <;> rfl

theorem write_error (s : Session) (world : World) (dump : Option CodeObject → List UInt8) :
    (s.write world dump).error = none := by
  rw [write_eq]
  rfl

/-- A session that has something to write: its directives and its code go through without a fault,
and a code object is built. -/
structure Ready (s : Session) (order : SetOrder) : Prop where
  declared : s.declare.fault = none
  assembled : s.declare.session.assemble.fault = none
  built : (s.declare.session.assemble.session.build order).fault = none

/-- The outcome of the first step of a run. -/
def declaredOutcome (s : Session) : Outcome :=
  next "Initializing directives...  " declare ⟨s, [], [], none, none⟩

/-- The outcome of the first two steps of a run. -/
def assembledOutcome (s : Session) : Outcome :=
  next "Assembling instructions...  " assemble s.declaredOutcome

/-- All steps of a run but the last. -/
def prepare (s : Session) (order : SetOrder) : Outcome :=
  next "Generating Python Code object...  " (fun s => s.build order) s.assembledOutcome

section Prepare

variable (s : Session) (order : SetOrder)

/-- No file is opened before the last step. -/
theorem prepare_files : (s.prepare order).files = [] := by
  rw [prepare, next_files (build_files _ order), assembledOutcome, next_files rfl, declaredOutcome,
    next_files rfl]

theorem prepare_error : (s.prepare order).error = none :=
  next_error (next_error (next_error rfl rfl) rfl) (build_error _ order)

theorem declaredOutcome_completed_iff :
    s.declaredOutcome.completed = true ↔ s.declare.fault = none := by
  rw [declaredOutcome, next_completed_iff, Outcome.completed_iff, Outcome.completed_iff]
  exact ⟨fun h => h.2.1, fun h => ⟨⟨rfl, rfl⟩, h, rfl⟩⟩

/-- The session after the first two steps, if the first is completed. -/
theorem assembledOutcome_session (h : s.declare.fault = none) :
    s.assembledOutcome.session = s.declare.session.assemble.session :=
  (next_of_completed (s.declaredOutcome_completed_iff.mpr h)).1

theorem assembledOutcome_completed_iff :
    s.assembledOutcome.completed = true ↔
      s.declare.fault = none ∧ s.declare.session.assemble.fault = none := by
  rw [assembledOutcome, next_completed_iff, declaredOutcome_completed_iff, Outcome.completed_iff]
  exact ⟨fun h => ⟨h.1, h.2.1⟩, fun h => ⟨h.1, h.2, rfl⟩⟩

/-- The last step is come to just when the session has something to write. -/
theorem prepare_completed_iff : (s.prepare order).completed = true ↔ s.Ready order := by
  rw [prepare, next_completed_iff, assembledOutcome_completed_iff, Outcome.completed_iff]
  constructor
  · rintro ⟨⟨hd, ha⟩, hb, -⟩
    rw [s.assembledOutcome_session hd] at hb
    exact ⟨hd, ha, hb⟩
  · rintro ⟨hd, ha, hb⟩
    rw [s.assembledOutcome_session hd]
    exact ⟨⟨hd, ha⟩, hb, build_error _ order⟩

variable {s order}

/-- The session that comes to the last step. -/
theorem Ready.prepare_session (h : s.Ready order) :
    (s.prepare order).session
      = (s.declare.session.assemble.session.build order).session := by
  have hcompleted := s.assembledOutcome_completed_iff.mpr ⟨h.declared, h.assembled⟩
  rw [prepare, (next_of_completed hcompleted).1, s.assembledOutcome_session h.declared]

/-- It holds the code object that was built. -/
theorem Ready.exists_object (h : s.Ready order) :
    ∃ object, CodeObject.build s.listing.name s.declare.session.assemble.session.assembly order
        = .ok object ∧
      (s.prepare order).session.object = some object ∧
      (s.prepare order).session.listing = s.listing := by
  have hlisting : s.declare.session.assemble.session.listing.name = s.listing.name := rfl
  rw [h.prepare_session]
  have hb := h.built
  unfold build at hb ⊢
  rw [hlisting] at hb ⊢
  cases hobject : CodeObject.build s.listing.name
      s.declare.session.assemble.session.assembly order with
  | error f => simp [hobject, ended] at hb
  | ok object => exact ⟨object, rfl, rfl, rfl⟩

end Prepare

/-! ### The last step -/

/-- The outcome of all steps of a run. -/
def written (world : World) (dump : Option CodeObject → List UInt8) (s : Session)
    (order : SetOrder) : Outcome :=
  next "Writing to file...  " (fun s => s.write world dump) (s.prepare order)

/-- An outcome with the last line of a run added, if it was completed. -/
def finished (target : String) (o : Outcome) : Outcome :=
  if o.completed then
    { o with
      printed := o.printed ++
        Text.ofString ("Sucessfully assembled and saved to " ++ target ++ "\n") }
  else o

theorem run_eq_finished (world : World) (dump : Option CodeObject → List UInt8) (s : Session)
    (order : SetOrder) :
    s.run world dump order = finished s.listing.targetName (s.written world dump order) := rfl

theorem finished_files (target : String) (o : Outcome) : (finished target o).files = o.files := by
  unfold finished
  split <;> rfl

theorem finished_fault (target : String) (o : Outcome) : (finished target o).fault = o.fault := by
  unfold finished
  split <;> rfl

theorem finished_error (target : String) (o : Outcome) : (finished target o).error = o.error := by
  unfold finished
  split <;> rfl

section Run

variable {s : Session} {order : SetOrder} (world : World) (dump : Option CodeObject → List UInt8)

/-- **No error of a file leaves a run.** -/
theorem run_error : (s.run world dump order).error = none := by
  rw [run_eq_finished, finished_error]
  exact next_error (s.prepare_error order) (write_error _ world dump)

/-- The outside world is not looked at before there is something to write. -/
theorem run_of_not_ready (h : ¬ s.Ready order) :
    s.run world dump order = finished s.listing.targetName (s.prepare order) := by
  have hstopped : (s.prepare order).completed = false := by
    rw [Bool.eq_false_iff]
    exact fun hcompleted => h ((s.prepare_completed_iff order).mp hcompleted)
  rw [run_eq_finished, written, next_of_not_completed hstopped]

/-- Otherwise the last step decides. -/
theorem run_of_ready (h : s.Ready order) :
    (s.run world dump order).files = ((s.prepare order).session.write world dump).files ∧
      (s.run world dump order).fault = ((s.prepare order).session.write world dump).fault := by
  have hcompleted := (s.prepare_completed_iff order).mpr h
  rw [run_eq_finished, finished_files, finished_fault, written,
    (next_of_completed hcompleted).2.1, (next_of_completed hcompleted).2.2.1, prepare_files]
  exact ⟨rfl, rfl⟩

/-- The last step writes the code object that was built. -/
theorem Ready.write_eq (h : s.Ready order) :
    ∃ object, CodeObject.build s.listing.name s.declare.session.assemble.session.assembly order
        = .ok object ∧
      (s.prepare order).session.write world dump = ended (s.prepare order).session []
        (OutputFile.write s.listing.targetName (dump (some object)) world).1
        (OutputFile.reportedFault
          (OutputFile.write s.listing.targetName (dump (some object)) world).2) := by
  obtain ⟨object, hbuild, hobject, hlisting⟩ := h.exists_object
  refine ⟨object, hbuild, ?_⟩
  rw [Session.write_eq, hlisting, hobject]

/-- A run opens one file at most, and only when it has something to write. -/
theorem run_files :
    (s.run world dump order).files = [] ∨
      s.Ready order ∧
        ∃ bytes, (s.run world dump order).files = [⟨s.listing.targetName, bytes⟩] := by
  by_cases h : s.Ready order
  · obtain ⟨object, -, hwrite⟩ := h.write_eq world dump
    rw [(run_of_ready world dump h).1, hwrite]
    rcases OutputFile.write_files s.listing.targetName (dump (some object)) world with hnone | hone
    · exact .inl hnone
    · exact .inr ⟨h, hone⟩
  · rw [run_of_not_ready world dump h, finished_files, prepare_files]
    exact .inl rfl

end Run

/-- **What a run does to the output file.**  Where the directives, the code or the building of the
code object fail, no file is opened, and the run is the same in every outside world.  Otherwise the
code object is written, as whichever bytes stand for it, and the clock and the failure of the output
decide what comes of that.  In no case is an error of a file left to be handled. -/
theorem run_ends (listing : Listing) (dump : Option CodeObject → List UInt8) (order : SetOrder)
    (world : World) :
    let s := Session.start listing
    let o := s.run world dump order
    o.error = none ∧
      (¬ s.Ready order → o.files = [] ∧ ∀ world', s.run world' dump order = o) ∧
      (s.Ready order → ∃ object,
        CodeObject.build listing.name s.declare.session.assemble.session.assembly order
          = .ok object ∧
          OutputFile.Ends listing.targetName (dump (some object)) world o.files o.fault) := by
  intro s o
  refine ⟨run_error world dump, fun h => ?_, fun h => ?_⟩
  · refine ⟨?_, fun world' => ?_⟩
    · show (s.run world dump order).files = []
      rw [run_of_not_ready world dump h, finished_files, prepare_files]
    · show s.run world' dump order = s.run world dump order
      rw [run_of_not_ready world' dump h, run_of_not_ready world dump h]
  · obtain ⟨object, hbuild, hwrite⟩ := h.write_eq world dump
    obtain ⟨hfiles, hfault⟩ := run_of_ready world dump h
    refine ⟨object, hbuild, ?_⟩
    show OutputFile.Ends _ _ world (s.run world dump order).files (s.run world dump order).fault
    rw [hfiles, hfault, hwrite]
    exact OutputFile.write_ends listing.targetName (dump (some object)) world

/-- The disk is full when the body is to be written, three seconds and a half after the beginning of
time. -/
theorem run_ends_full :
    let listing : Listing := { name := "full.asm", lines := ["#const yes True", "return yes"] }
    let world : World := ⟨7 / 2, some ⟨.writing 2, 28, "No space left on device"⟩⟩
    let dump : Option CodeObject → List UInt8 := fun object => [if object.isSome then 1 else 0]
    (Session.start listing).Ready .written ∧
      ((Session.start listing).run world dump).files
        = [⟨"full.pyc", [0x0a, 0xf3, 0x0d, 0x0a, 3, 0, 0, 0]⟩] := by
  intro listing world dump
  have hready : (Session.start listing).Ready .written :=
    ⟨Option.isNone_iff_eq_none.mp (by decide +kernel),
      Option.isNone_iff_eq_none.mp (by decide +kernel),
      Option.isNone_iff_eq_none.mp (by decide +kernel)⟩
  have hseconds : OutputFile.towardZero world.now = 3 := by
    rw [← OutputFile.seconds_eq_towardZero]
    decide +kernel
  have ht : OutputFile.Stampable world.now := by
    rw [OutputFile.Stampable, hseconds]
    decide
  have hname : listing.targetName = "full.pyc" := by decide +kernel
  obtain ⟨object, -, hends⟩ := (run_ends listing dump .written world).2.2 hready
  refine ⟨hready, ?_⟩
  rw [hends.third ht ⟨_, rfl, rfl⟩, hseconds, hname, OutputFile.take_eight_image]
  rfl

end Session

end BytecodeAssembler
