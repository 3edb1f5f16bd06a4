import BytecodeAssembler.CommandLine
import BytecodeAssembler.Proofs.OutputImage
import Mathlib.Data.List.DropRight

/-!
# The file that the program writes

The program writes one file at most, in the directory it was started in.  Its name is made from the
argument by two conventions for paths: first everything up to the last separator, of either kind, and
a drive in front are taken off, then the extension is, and `.pyc` takes its place.  So the name holds
no separator (`Path.separatorFree_target`), and it is the argument itself, which is then overwritten,
in one case only (`Path.target_eq_path_iff`).

What the program prints is a sequence of messages, each in fixed words around a name or the cause of
a report (`Message`), and `CommandLine.Says` tells which they are.  An error of the output file is
handled where the file is written and ends in a report.  The handler around the whole program, which
says that a file is not found, is left with the errors of reading the listing
(`CommandLine.attempt_error_iff`).
-/

namespace BytecodeAssembler

namespace Path

/-! ## Extensions -/

/-- The extension of a file name: it begins at the last dot, and dots at the front of the name open
none. -/
def nameExtension (name : List Char) : List Char :=
  let rest := name.dropWhile (· == '.')
  if rest.contains '.' then '.' :: rest.rtakeWhile (· != '.') else []

/-- The extension of a path. -/
def extension (path : String) : String :=
  String.ofList (nameExtension (splitLast path.toList).2)

theorem splitLast_append (cs : List Char) : (splitLast cs).1 ++ (splitLast cs).2 = cs := by
  have hsplit : cs.rdropWhile (· != '/') ++ cs.rtakeWhile (· != '/') = cs :=
    List.rdropWhile_append_rtakeWhile
  have hlength := congrArg List.length hsplit
  rw [List.length_append] at hlength
  have hbefore : cs.take (cs.length - (cs.rtakeWhile (· != '/')).length)
      = cs.rdropWhile (· != '/') := by
    rw [show cs.length - (cs.rtakeWhile (· != '/')).length = (cs.rdropWhile (· != '/')).length by
      omega]
    exact (List.prefix_iff_eq_take.mp (List.rdropWhile_prefix _ cs)).symm
  show cs.take (cs.length - (cs.rtakeWhile (· != '/')).length) ++ cs.rtakeWhile (· != '/') = cs
  rw [hbefore, hsplit]

/-- What stands before the last dot, the dot, and what stands after it. -/
theorem append_lastDot {cs : List Char} (h : '.' ∈ cs) :
    ((cs.reverse.dropWhile (· != '.')).drop 1).reverse ++ '.' :: cs.rtakeWhile (· != '.') = cs := by
  have hsplit : cs.reverse.takeWhile (· != '.') ++ cs.reverse.dropWhile (· != '.') = cs.reverse :=
    List.takeWhile_append_dropWhile
  cases hdrop : cs.reverse.dropWhile (· != '.') with
  | nil =>
    have hall := List.dropWhile_eq_nil_iff.mp hdrop '.' (List.mem_reverse.mpr h)
    simp at hall
  | cons d before =>
    have hdot : d = '.' := by
      have hhead := List.head?_dropWhile_not (· != '.') cs.reverse
      rw [hdrop] at hhead
      simpa using hhead
    rw [hdrop, hdot] at hsplit
    calc before.reverse ++ '.' :: (cs.reverse.takeWhile (· != '.')).reverse
        = (cs.reverse.takeWhile (· != '.') ++ '.' :: before).reverse := by simp
      _ = cs := by rw [hsplit, List.reverse_reverse]

/-- A name is cut into its stem and its extension. -/
theorem stem_append (name : List Char) : stem name ++ nameExtension name = name := by
  have hdots : name.takeWhile (· == '.') ++ name.dropWhile (· == '.') = name :=
    List.takeWhile_append_dropWhile
  unfold stem nameExtension
  by_cases h : (name.dropWhile (· == '.')).contains '.' = true
  · simp only [h, if_true, List.append_assoc]
    rw [append_lastDot (by simpa using h), hdots]
  · simp only [h, if_false, List.append_nil, Bool.false_eq_true]

/-- A path is cut into what it is without its extension, and the extension. -/
theorem withoutExtension_append (path : String) :
    withoutExtension path ++ extension path = path := by
  apply String.toList_inj.mp
  show (String.ofList ((splitLast path.toList).1 ++ stem (splitLast path.toList).2) ++ _).toList = _
  rw [String.toList_append, String.toList_ofList, extension, String.toList_ofList,
    List.append_assoc, stem_append, splitLast_append]

theorem withoutExtension_append_eq_iff (path ext : String) :
    withoutExtension path ++ ext = path ↔ extension path = ext := by
  have hcut := withoutExtension_append path
  constructor
  · intro h
    have hends := congrArg String.toList (h.trans hcut.symm)
    rw [String.toList_append, String.toList_append] at hends
    exact (String.toList_inj.mp (List.append_cancel_left hends)).symm
  · rintro rfl
    exact hcut

/-- An extension begins with a dot. -/
theorem nameExtension_cases (name : List Char) :
    nameExtension name = [] ∨ ∃ rest, nameExtension name = '.' :: rest := by
  unfold nameExtension
  dsimp only
  split
  · exact .inr ⟨_, rfl⟩
  · exact .inl rfl

/-! ## Separators -/

/-- A text holds no separator. -/
def SeparatorFree (text : String) : Prop :=
  ∀ c ∈ text.toList, c ≠ '/' ∧ c ≠ '\\'

theorem not_isSeparator_iff (c : Char) : (!isSeparator c) = true ↔ c ≠ '/' ∧ c ≠ '\\' := by
  simp [isSeparator]

theorem toList_fileName (path : String) :
    (fileName path).toList = (withoutDrive path.toList).rtakeWhile (!isSeparator ·) :=
  String.toList_ofList

theorem separatorFree_fileName (path : String) : SeparatorFree (fileName path) := by
  intro c hc
  rw [toList_fileName] at hc
  exact (not_isSeparator_iff c).mp (List.mem_rtakeWhile_imp (p := (!isSeparator ·)) hc)

/-- The name of the file that is written for the listing at a path. -/
def target (path : String) : String :=
  withoutExtension (fileName path) ++ ".pyc"

theorem separatorFree_target (path : String) : SeparatorFree (target path) := by
  intro c hc
  rw [target, String.toList_append, List.mem_append] at hc
  rcases hc with hstem | hext
  · apply separatorFree_fileName path
    rw [← withoutExtension_append (fileName path), String.toList_append]
    exact List.mem_append_left _ hstem
  · have hletters : ".pyc".toList = ['.', 'p', 'y', 'c'] := rfl
    simp only [hletters, List.mem_cons, List.not_mem_nil, or_false] at hext
    rcases hext with rfl | rfl | rfl | rfl <;> decide

/-- Where there is no separator, only a drive is taken off. -/
theorem toList_fileName_of_separatorFree {path : String} (h : SeparatorFree path) :
    (fileName path).toList
      = if path.toList[1]? = some ':' then path.toList.drop 2 else path.toList := by
  have hdrive : withoutDrive path.toList
      = if path.toList[1]? = some ':' then path.toList.drop 2 else path.toList := by
    have hall : ∀ c ∈ path.toList, isSeparator c = false := fun c hc => by
      simpa using (not_isSeparator_iff c).mpr (h c hc)
    unfold withoutDrive
    split
    · rename_i a b rest heq
      rw [heq] at hall ⊢
      simp [hall a (by simp)]
    · rename_i hshort
      have hnone : path.toList[1]? = none := by
        match heq : path.toList with
        | [] => rfl
        | [a] => rfl
        | a :: b :: rest => exact absurd heq (hshort a b rest)
      simp [hnone]
  rw [toList_fileName, List.rtakeWhile_eq_self_iff.mpr, hdrive]
  intro c hc
  rw [hdrive] at hc
  have hmem : c ∈ path.toList := by
    split at hc
    · exact List.mem_of_mem_drop hc
    · exact hc
  exact (not_isSeparator_iff c).mpr (h c hmem)

/-- The name with a drive taken off, and `.pyc` for its extension, is never the whole again: it would
have lost two characters in the extension, and an extension begins with a dot. -/
theorem withoutExtension_ne_of_drive (name : String) (drive : Char) :
    (withoutExtension name).toList ++ ".pyc".toList ≠ drive :: ':' :: name.toList := by
  intro heq
  have hname : (withoutExtension name).toList ++ (extension name).toList = name.toList := by
    rw [← String.toList_append, withoutExtension_append]
  rw [← hname] at heq
  -- The two sides end alike.
  have hlength : (extension name).toList.length = 2 := by
    have h := congrArg List.length heq
    simp only [List.length_append, List.length_cons] at h
    have hpyc : ".pyc".toList.length = 4 := by decide
    omega
  have hend : (extension name).toList = ['y', 'c'] := by
    have hsplit : ((withoutExtension name).toList ++ ['.', 'p']) ++ ['y', 'c']
        = (drive :: ':' :: (withoutExtension name).toList) ++ (extension name).toList := by
      simpa using heq
    exact (List.append_inj_right' hsplit (by simp [hlength])).symm
  rw [extension, String.toList_ofList] at hend
  rcases nameExtension_cases (splitLast name.toList).2 with hnil | ⟨rest, hdot⟩
  · rw [hnil] at hend
    cases hend
  · rw [hdot] at hend
    simp at hend

/-- **When a listing is overwritten by what is written for it.** -/
theorem target_eq_path_iff (path : String) :
    target path = path ↔
      SeparatorFree path ∧ path.toList[1]? ≠ some ':' ∧ extension path = ".pyc" := by
  -- A path without separators and drive is its own file name.
  have hplain : SeparatorFree path → path.toList[1]? ≠ some ':' →
      (target path = path ↔ extension path = ".pyc") := by
    intro hfree hdrive
    have hname := toList_fileName_of_separatorFree hfree
    rw [if_neg hdrive, String.toList_inj] at hname
    rw [target, hname]
    exact withoutExtension_append_eq_iff path ".pyc"
  constructor
  · intro heq
    have hfree : SeparatorFree path := by
      rw [← heq]
      exact separatorFree_target path
    have hdrive : path.toList[1]? ≠ some ':' := by
      intro hcolon
      have hname := toList_fileName_of_separatorFree hfree
      rw [if_pos hcolon] at hname
      obtain ⟨drive, hpath⟩ : ∃ drive, path.toList = drive :: ':' :: path.toList.drop 2 := by
        match hcs : path.toList, hcolon with
        | a :: b :: rest, hcolon => exact ⟨a, by simpa using hcolon⟩
      apply withoutExtension_ne_of_drive (fileName path) drive
      rw [hname, ← hpath, ← String.toList_append]
      exact congrArg String.toList heq
    exact ⟨hfree, hdrive, (hplain hfree hdrive).mp heq⟩
  · rintro ⟨hfree, hdrive, hext⟩
    exact (hplain hfree hdrive).mpr hext

end Path

/-! ## Messages -/

/-- The steps of a run, each of which is announced. -/
inductive RunStep where
  | declaring
  | assembling
  | building
  | writing

namespace RunStep

def heading : RunStep → String
  | .declaring => "Initializing directives...  "
  | .assembling => "Assembling instructions...  "
  | .building => "Generating Python Code object...  "
  | .writing => "Writing to file...  "

/-- All steps in their order. -/
def all : List RunStep :=
  [.declaring, .assembling, .building, .writing]

end RunStep

/-- What the program can say. -/
inductive Message where
  | usage
  | notFound (path : String)
  | banner (path : String)
  | begins (step : RunStep)
  | done
  | saved (target : String)
  | report (cause : Report)

namespace Message

def text : Message → String
  | .usage => "Need atleast 1 argument to run\n"
  | .notFound path => "The specified file is not found: " ++ path ++ "\n"
  | .banner path => "PyBy: The python bytecode assembler\nAssembling " ++ path ++ "\n"
  | .begins step => step.heading
  | .done => "Done.\n"
  | .saved target => "Sucessfully assembled and saved to " ++ target ++ "\n"
  | .report cause => errorText cause.message

/-- The text of some messages, one after the other. -/
def transcript (messages : List Message) : Text :=
  messages.flatMap fun m => Text.ofString m.text

theorem transcript_append (xs ys : List Message) :
    transcript (xs ++ ys) = transcript xs ++ transcript ys :=
  List.flatMap_append

theorem transcript_cons (m : Message) (ms : List Message) :
    transcript (m :: ms) = Text.ofString m.text ++ transcript ms := rfl

theorem transcript_singleton (m : Message) : transcript [m] = Text.ofString m.text :=
  List.append_nil _

theorem transcript_nil : transcript [] = Text.ofString "" := by
  rw [Text.ofString, String.toList_empty]
  rfl

/-- What is said of steps that are completed. -/
def ofSteps (steps : List RunStep) : List Message :=
  steps.flatMap fun step => [.begins step, .done]

/-- What is said for a fault. -/
def ofFault : Fault → List Message
  | .report cause => [.report cause]
  | .usage => [.usage]
  | _ => []

theorem transcript_ofFault (f : Fault) : transcript (ofFault f) = Text.ofString f.printed := by
  cases f with
  | report cause => exact transcript_singleton _
  | usage => exact transcript_singleton _
  | _ => exact transcript_nil

/-- What is said at the end of a step, by its fault. -/
def ofEnd : Option Fault → List Message
  | none => [.done]
  | some f => ofFault f

theorem ofSteps_concat (steps : List RunStep) (step : RunStep) :
    ofSteps (steps ++ [step]) = ofSteps steps ++ [.begins step, .done] := by
  simp [ofSteps]

theorem notFound_not_mem_ofSteps (path : String) (steps : List RunStep) :
    .notFound path ∉ ofSteps steps := by
  simp [ofSteps]

theorem notFound_not_mem_ofFault (path : String) (f : Fault) : .notFound path ∉ ofFault f := by
  cases f <;> simp [ofFault]

end Message

namespace Session

section Says

variable (world : World) (dump : Option CodeObject → List UInt8) (order : SetOrder) (s : Session)

/-- The outcome of a step of a run, where the run comes to it. -/
def outcomeOf : RunStep → Outcome
  | .declaring => s.declare
  | .assembling => s.declare.session.assemble
  | .building => s.declare.session.assemble.session.build order
  | .writing => (s.declare.session.assemble.session.build order).session.write world dump

/-- **What is said of the steps of a run**, by the fault it ends in: each step is completed, up to the
one that ends in the fault. -/
inductive StepsSay (steps : List RunStep) : Option Fault → List Message → Prop where
  | completed (h : ∀ step ∈ steps, (s.outcomeOf world dump order step).fault = none) :
    StepsSay steps none (Message.ofSteps steps)
  | stopped {before after : List RunStep} {step : RunStep} {f : Fault}
      (hsteps : steps = before ++ step :: after)
      (hbefore : ∀ step' ∈ before, (s.outcomeOf world dump order step').fault = none)
      (hstep : (s.outcomeOf world dump order step).fault = some f) :
    StepsSay steps (some f) (Message.ofSteps before ++ .begins step :: Message.ofFault f)

variable {world dump order s}

theorem StepsSay.notFound_not_mem {steps : List RunStep} {fault : Option Fault}
    {messages : List Message} (h : s.StepsSay world dump order steps fault messages)
    (path : String) : .notFound path ∉ messages := by
  cases h with
  | completed => exact Message.notFound_not_mem_ofSteps path steps
  | stopped =>
    simp [Message.notFound_not_mem_ofSteps, Message.notFound_not_mem_ofFault]

/-- A report is the last thing said. -/
theorem StepsSay.getLast?_of_report {steps : List RunStep} {cause : Report}
    {messages : List Message}
    (h : s.StepsSay world dump order steps (some (.report cause)) messages) :
    messages.getLast? = some (.report cause) := by
  cases h with
  | stopped => simp [Message.ofFault]

end Says

/-! ### What single steps print -/

theorem printed_ended (s : Session) (files : List OutputFile) (fault : Option Fault) :
    (ended s [] files fault).printed
      = Message.transcript ((fault.map Message.ofFault).getD []) := by
  cases fault with
  | none => exact Message.transcript_nil.symm
  | some f => exact (Message.transcript_ofFault f).symm

section Tells

variable {world : World} {dump : Option CodeObject → List UInt8} {order : SetOrder} {s : Session}

/-- A step prints nothing but what is said for its fault, and leaves no error. -/
theorem outcomeOf_printed (step : RunStep) :
    (s.outcomeOf world dump order step).printed = Message.transcript
        (((s.outcomeOf world dump order step).fault.map Message.ofFault).getD []) ∧
      (s.outcomeOf world dump order step).error = none := by
  cases step with
  | declaring => exact ⟨printed_ended _ _ _, rfl⟩
  | assembling => exact ⟨printed_ended _ _ _, rfl⟩
  | building =>
    refine ⟨?_, build_error _ order⟩
    show (build _ order).printed = Message.transcript (((build _ order).fault.map _).getD [])
    unfold build
    split
    · exact printed_ended _ _ _
    · exact printed_ended _ _ _
  | writing =>
    refine ⟨?_, write_error _ world dump⟩
    show (write world _ dump).printed
      = Message.transcript (((write world _ dump).fault.map _).getD [])
    rw [write_eq]
    exact printed_ended _ _ _

theorem outcomeOf_ends (step : RunStep) :
    (s.outcomeOf world dump order step).printed ++
        Text.ofString (if (s.outcomeOf world dump order step).completed then "Done.\n" else "")
      = Message.transcript (Message.ofEnd (s.outcomeOf world dump order step).fault) := by
  obtain ⟨hprinted, herror⟩ := @outcomeOf_printed world dump order s step
  rw [hprinted]
  cases hfault : (s.outcomeOf world dump order step).fault with
  | none =>
    rw [if_pos ((Outcome.completed_iff _).mpr ⟨hfault, herror⟩)]
    exact (Message.transcript_singleton .done).symm
  | some f =>
    rw [if_neg (by simp [Outcome.completed, hfault]), ← Message.transcript_nil]
    exact List.append_nil _

/-- What an outcome printed is what is said of the steps so far. -/
structure Tells (world : World) (dump : Option CodeObject → List UInt8) (order : SetOrder)
    (s : Session) (steps : List RunStep) (o : Outcome) (messages : List Message) : Prop where
  printed : o.printed = Message.transcript messages
  handled : o.error = none
  told : s.StepsSay world dump order steps o.fault messages

theorem next_printed {heading : String} {f : Session → Outcome} {o : Outcome}
    (h : o.completed = true) :
    (next heading f o).printed = o.printed ++ Text.ofString heading ++ ((f o.session).printed ++
      Text.ofString (if (f o.session).completed then "Done.\n" else "")) := by
  simp [next, h]

/-- **One more step.** -/
theorem Tells.next {steps : List RunStep} {o : Outcome} {messages : List Message}
    {f : Session → Outcome} (h : Tells world dump order s steps o messages) (step : RunStep)
    (hf : o.completed = true → f o.session = s.outcomeOf world dump order step) :
    ∃ messages', Tells world dump order s (steps ++ [step]) (next step.heading f o) messages' := by
  obtain ⟨hprinted, hhandled, htold⟩ := h
  generalize hfault : o.fault = fault at htold
  cases htold with
  | completed hsteps =>
    have hcompleted : o.completed = true := o.completed_iff.mpr ⟨hfault, hhandled⟩
    obtain ⟨-, -, hnext, herror⟩ := @next_of_completed step.heading f o hcompleted
    rw [hf hcompleted] at hnext herror
    refine ⟨Message.ofSteps steps ++
      .begins step :: Message.ofEnd (s.outcomeOf world dump order step).fault, ?_,
      herror.trans (outcomeOf_printed step).2, ?_⟩
    · rw [next_printed hcompleted, hf hcompleted, outcomeOf_ends, hprinted,
        Message.transcript_append, Message.transcript_cons, List.append_assoc]
      rfl
    · rw [hnext]
      cases hend : (s.outcomeOf world dump order step).fault with
      | none =>
        have hall : ∀ step' ∈ steps ++ [step],
            (s.outcomeOf world dump order step').fault = none := by
          intro step' hmem
          rcases List.mem_append.mp hmem with hmem | hmem
          · exact hsteps step' hmem
          · rw [List.mem_singleton.mp hmem, hend]
        have hsaid := StepsSay.completed hall
        rw [Message.ofSteps_concat] at hsaid
        exact hsaid
      | some g => exact .stopped rfl hsteps hend
  | @stopped before after step' g hsteps hbefore hstep =>
    have hstopped : o.completed = false := by simp [Outcome.completed, hfault]
    have hmore : steps ++ [step] = before ++ step' :: (after ++ [step]) := by simp [hsteps]
    refine ⟨Message.ofSteps before ++ .begins step' :: Message.ofFault g, ?_, ?_, ?_⟩
    · rw [next_of_not_completed hstopped, hprinted]
    · rw [next_of_not_completed hstopped, hhandled]
    · rw [next_of_not_completed hstopped, hfault]
      exact .stopped hmore hbefore hstep

end Tells

/-- **What a run prints**: what is said of its steps, and at the end where the code object is. -/
theorem told_run (s : Session) (world : World) (dump : Option CodeObject → List UInt8)
    (order : SetOrder) :
    ∃ messages, s.StepsSay world dump order RunStep.all (s.run world dump order).fault messages ∧
      (s.run world dump order).printed = Message.transcript
        (messages ++ if (s.run world dump order).fault = none
          then [.saved s.listing.targetName] else []) := by
  have hstart : Tells world dump order s [] ⟨s, [], [], none, none⟩ [] :=
    ⟨rfl, rfl, .completed (by simp)⟩
  obtain ⟨_, hdeclared⟩ := hstart.next .declaring (f := declare) fun _ => rfl
  obtain ⟨_, hassembled⟩ := hdeclared.next .assembling (f := assemble) fun _ =>
    congrArg assemble (next_of_completed rfl).1
  obtain ⟨_, hbuilt⟩ := hassembled.next .building (f := fun s => s.build order)
    fun hcompleted => by
      have hdeclare := (s.assembledOutcome_completed_iff.mp hcompleted).1
      exact congrArg (fun s => s.build order) (s.assembledOutcome_session hdeclare)
  obtain ⟨messages, hwritten⟩ := hbuilt.next .writing (f := fun s => s.write world dump)
    fun hcompleted => by
      have hready := (s.prepare_completed_iff order).mp hcompleted
      exact congrArg (fun s => s.write world dump) hready.prepare_session
  change Tells world dump order s RunStep.all (s.written world dump order) messages at hwritten
  refine ⟨messages, ?_, ?_⟩
  · rw [run_eq_finished, finished_fault]
    exact hwritten.told
  · rw [run_eq_finished, finished_fault, Message.transcript_append, ← hwritten.printed]
    unfold finished
    cases hfault : (s.written world dump order).fault with
    | none =>
      have hcompleted := (Outcome.completed_iff _).mpr ⟨hfault, hwritten.handled⟩
      rw [if_pos hcompleted, if_pos rfl, Message.transcript_singleton]
      rfl
    | some f =>
      rw [if_neg (by simp [Outcome.completed, hfault]), if_neg (by simp)]
      exact (List.append_nil _).symm

end Session

/-! ## The command line -/

namespace CommandLine

section Run

variable (arguments : List String) (content : String → Option String) (world : World)
  (dump : Option CodeObject → List UInt8) (order : SetOrder)

/-- The session that assembles the text of the listing at a path. -/
def session (path text : String) : Session :=
  Session.start ⟨Path.fileName path, Text.lines text⟩

/-- The listing at a path can be read, and a code object is built from it. -/
def Assembles (path : String) : Prop :=
  ∃ text, content path = some text ∧ (session path text).Ready order

/-- **What the program says**, by the fault it ends in. -/
inductive Says : Option Fault → List Message → Prop where
  | usage (h : ∀ path, arguments ≠ [path]) : Says (some .usage) [.usage]
  | notFound {path : String} (harguments : arguments = [path]) (hcontent : content path = none) :
    Says none [.notFound path]
  | saved {path text : String} {messages : List Message} (harguments : arguments = [path])
      (hcontent : content path = some text)
      (h : (session path text).StepsSay world dump order RunStep.all none messages) :
    Says none (.banner path :: messages ++ [.saved (Path.target path)])
  | stopped {path text : String} {messages : List Message} {f : Fault}
      (harguments : arguments = [path]) (hcontent : content path = some text)
      (h : (session path text).StepsSay world dump order RunStep.all (some f) messages) :
    Says (some f) (.banner path :: messages)

variable {arguments content world dump order} {path text : String}

/-- **The handler around the program takes the errors of reading the listing, and no others.** -/
theorem attempt_error_iff :
    (attempt path content world dump order).2.isSome = true ↔ content path = none := by
  unfold attempt
  split
  · rename_i hnone
    simp [hnone]
  · rename_i text htext
    simp [htext, Session.run_error]

theorem run_of_missing (h : content path = none) :
    run [path] content world dump order
      = ⟨Message.transcript [.notFound path], [], none, none⟩ := by
  have hattempt : attempt path content world dump order = (⟨[], [], none, none⟩, some missing) := by
    rw [attempt, h]
  rw [Message.transcript_singleton]
  show excused path (attempt path content world dump order) = _
  rw [hattempt]
  rfl

theorem run_of_text (h : content path = some text) :
    let o := (session path text).run world dump order
    run [path] content world dump order
      = ⟨Text.ofString (Message.text (.banner path)) ++ o.printed, o.files,
        if o.fault.isNone then o.session.object else none, o.fault⟩ := by
  intro o
  have hattempt : attempt path content world dump order
      = (⟨Text.ofString (Message.text (.banner path)) ++ o.printed, o.files,
          if o.fault.isNone then o.session.object else none, o.fault⟩, none) := by
    rw [attempt, h, ← show o.error = none from Session.run_error world dump]
    rfl
  show excused path (attempt path content world dump order) = _
  rw [hattempt]
  rfl

theorem run_of_usage (h : ∀ path, arguments ≠ [path]) :
    run arguments content world dump order
      = ⟨Message.transcript [.usage], [], none, some .usage⟩ := by
  rw [Message.transcript_singleton]
  unfold run
  split
  · exact absurd rfl (h _)
  · rfl

/-- The three ways in which the program is started. -/
theorem arguments_cases (arguments : List String) (content : String → Option String) :
    (∀ path, arguments ≠ [path]) ∨ (∃ path, arguments = [path] ∧ content path = none) ∨
      ∃ path text, arguments = [path] ∧ content path = some text := by
  by_cases h : ∃ path, arguments = [path]
  · obtain ⟨path, rfl⟩ := h
    cases hcontent : content path with
    | none => exact .inr (.inl ⟨path, rfl, hcontent⟩)
    | some text => exact .inr (.inr ⟨path, text, rfl, hcontent⟩)
  · exact .inl fun path hpath => h ⟨path, hpath⟩

/-- The files of a run of the program. -/
theorem run_files :
    (run arguments content world dump order).files = [] ∨
      ∃ path bytes, arguments = [path] ∧ Assembles content order path ∧
        (run arguments content world dump order).files = [⟨Path.target path, bytes⟩] := by
  rcases arguments_cases arguments content with h | ⟨path, rfl, h⟩ | ⟨path, text, rfl, h⟩
  · rw [run_of_usage h]
    exact .inl rfl
  · rw [run_of_missing h]
    exact .inl rfl
  · rw [run_of_text h]
    rcases @Session.run_files (session path text) order world dump with
      hnone | ⟨hready, bytes, hone⟩
    · exact .inl hnone
    · exact .inr ⟨path, bytes, rfl, ⟨text, h, hready⟩, hone⟩

theorem told_run :
    ∃ messages,
      (run arguments content world dump order).printed = Message.transcript messages ∧
      Says arguments content world dump order (run arguments content world dump order).fault
        messages := by
  rcases arguments_cases arguments content with h | ⟨path, rfl, h⟩ | ⟨path, text, rfl, h⟩
  · rw [run_of_usage h]
    exact ⟨_, rfl, .usage h⟩
  · rw [run_of_missing h]
    exact ⟨_, rfl, .notFound rfl h⟩
  · rw [run_of_text h]
    obtain ⟨messages, htold, hprinted⟩ := (session path text).told_run world dump order
    generalize (session path text).run world dump order = o at htold hprinted ⊢
    show ∃ messages, Text.ofString _ ++ o.printed = _ ∧
      Says [path] content world dump order o.fault messages
    cases hfault : o.fault with
    | none =>
      rw [hfault] at htold hprinted
      refine ⟨_, ?_, .saved rfl h htold⟩
      rw [hprinted, if_pos rfl]
      rfl
    | some f =>
      rw [hfault] at htold hprinted
      refine ⟨_, ?_, .stopped rfl h htold⟩
      rw [hprinted, if_neg (by simp), List.append_nil]
      rfl

theorem not_missing_of_text (h : content path = some text) (path' : String) :
    ¬ ([path] = [path'] ∧ content path' = none) := by
  rintro ⟨hpath, hnone⟩
  obtain rfl : path = path' := by simpa using hpath
  cases h.symm.trans hnone

theorem Says.notFound_mem_iff {fault : Option Fault} {messages : List Message}
    (h : Says arguments content world dump order fault messages) (path : String) :
    .notFound path ∈ messages ↔ arguments = [path] ∧ content path = none := by
  cases h with
  | usage h => simp [h path]
  | notFound harguments hcontent =>
    subst harguments
    constructor
    · intro hmem
      obtain rfl : path = _ := by simpa using hmem
      exact ⟨rfl, hcontent⟩
    · rintro ⟨hpath, -⟩
      simpa using hpath.symm
  | saved harguments hcontent htold =>
    subst harguments
    have hunsaid := htold.notFound_not_mem path
    exact iff_of_false (by simp [hunsaid]) (not_missing_of_text hcontent path)
  | stopped harguments hcontent htold =>
    subst harguments
    have hunsaid := htold.notFound_not_mem path
    exact iff_of_false (by simp [hunsaid]) (not_missing_of_text hcontent path)

/-- A report is the last thing said. -/
theorem Says.getLast?_of_report {fault : Option Fault} {messages : List Message} {cause : Report}
    (h : Says arguments content world dump order fault messages)
    (hfault : fault = some (.report cause)) : messages.getLast? = some (.report cause) := by
  cases h with
  | usage => cases hfault
  | notFound => cases hfault
  | saved => cases hfault
  | stopped _ _ htold =>
    obtain rfl := Option.some.inj hfault
    rw [List.getLast?_cons, htold.getLast?_of_report]
    rfl

/-- A failure of the output that is hit is the fault of the run. -/
theorem run_fault_of_hit (hassembles : Assembles content order path)
    (hhit : OutputFile.Hit world) :
    ∃ failure, world.failure = some failure ∧
      (run [path] content world dump order).fault
        = some (.report (.outputFailed failure.code failure.reason)) := by
  obtain ⟨text, htext, hready⟩ := hassembles
  obtain ⟨object, -, hwrite⟩ := hready.write_eq world dump
  have hends := OutputFile.write_ends (session path text).listing.targetName (dump (some object))
    world
  obtain ⟨failure, f, hfailure, hf, rfl, -, -⟩ := hends.reported hhit
  refine ⟨failure, hfailure, ?_⟩
  rw [run_of_text htext]
  show ((session path text).run world dump order).fault = _
  rw [(Session.run_of_ready world dump hready).2, hwrite]
  exact hf

end Run

/-- **Where the program writes, and what it says.**  The program opens one file at most, and only
when its one argument is the path of a listing from which a code object is built; otherwise it does
not even look at the clock and the output.  The name of the file is made from the last part of the
path, holds no separator and ends in `.pyc`.  It is the path itself just when the path holds no
separator and no drive and has that extension already.

What is printed is told message by message.  That a file is not found is said when there is one
argument and no listing can be read there, and at no other time: no other error comes to the handler
that says so.  A report is the last thing said, and a failure of the output ends in one. -/
theorem run_writes (arguments : List String) (content : String → Option String) (world : World)
    (dump : Option CodeObject → List UInt8) (order : SetOrder) :
    let r := run arguments content world dump order
    r.files.length ≤ 1 ∧
      (∀ file ∈ r.files, ∃ path, arguments = [path] ∧ Assembles content order path ∧
        file.name = Path.withoutExtension (Path.fileName path) ++ ".pyc" ∧
        Path.SeparatorFree file.name ∧ ".pyc".toList <:+ file.name.toList ∧
        (file.name = path ↔
          Path.SeparatorFree path ∧ path.toList[1]? ≠ some ':' ∧ Path.extension path = ".pyc")) ∧
      ((¬ ∃ path, arguments = [path] ∧ Assembles content order path) →
        ∀ world', run arguments content world' dump order = r) ∧
      (∀ path, (attempt path content world dump order).2.isSome = true ↔ content path = none) ∧
      ∃ messages, r.printed = Message.transcript messages ∧
        Says arguments content world dump order r.fault messages ∧
        (∀ path, .notFound path ∈ messages ↔ arguments = [path] ∧ content path = none) ∧
        (∀ cause, r.fault = some (.report cause) → messages.getLast? = some (.report cause)) ∧
        ∀ path, arguments = [path] → Assembles content order path → OutputFile.Hit world →
          ∃ failure, world.failure = some failure ∧
            r.fault = some (.report (.outputFailed failure.code failure.reason)) := by
  intro r
  refine ⟨?_, ?_, ?_, fun path => attempt_error_iff, ?_⟩
  · rcases @run_files arguments content world dump order with hnone | ⟨path, bytes, -, -, hone⟩
    · simp [r, hnone]
    · simp [r, hone]
  · intro file hfile
    rcases @run_files arguments content world dump order with
      hnone | ⟨path, bytes, harg, hasm, hone⟩
    · rw [show r.files = [] from hnone] at hfile
      cases hfile
    · rw [show r.files = _ from hone] at hfile
      obtain rfl := List.mem_singleton.mp hfile
      refine ⟨path, harg, hasm, rfl, Path.separatorFree_target path, ?_,
        Path.target_eq_path_iff path⟩
      show ".pyc".toList <:+ (Path.withoutExtension (Path.fileName path) ++ ".pyc").toList
      rw [String.toList_append]
      exact List.suffix_append _ _
  · intro hnot world'
    show run arguments content world' dump order = run arguments content world dump order
    rcases arguments_cases arguments content with h | ⟨path, rfl, h⟩ | ⟨path, text, rfl, h⟩
    · rw [run_of_usage h, run_of_usage h]
    · rw [run_of_missing h, run_of_missing h]
    · have hready : ¬ (session path text).Ready order := fun hready =>
        hnot ⟨path, rfl, text, h, hready⟩
      rw [run_of_text h, run_of_text h, Session.run_of_not_ready world' dump hready,
        Session.run_of_not_ready world dump hready]
  · obtain ⟨messages, hprinted, htold⟩ := @told_run arguments content world dump order
    refine ⟨messages, hprinted, htold, htold.notFound_mem_iff,
      fun cause => htold.getLast?_of_report, ?_⟩
    rintro path rfl hassembles hhit
    exact run_fault_of_hit hassembles hhit

/-- A listing that has the extension of a compiled file is overwritten.  Where that is not permitted,
the failure is reported, and the listing is not said to be missing. -/
theorem run_writes_overwritten :
    let content : String → Option String := fun path =>
      if path = "a.pyc" then some "return None\n" else none
    let files := (run ["a.pyc"] content ⟨0, none⟩).files
    let denied : World := ⟨0, some ⟨.opening, 13, "Permission denied"⟩⟩
    (files.map (·.name) = ["a.pyc"] ∧ ∀ file ∈ files, file.name = "a.pyc") ∧
      Assembles content .written "a.pyc" ∧ OutputFile.Hit denied ∧
      ∃ messages, (run ["a.pyc"] content denied).printed = Message.transcript messages ∧
        messages.getLast? = some (.report (.outputFailed 13 "Permission denied")) ∧
        .notFound "a.pyc" ∉ messages := by
  intro content files denied
  have hassembles : Assembles content .written "a.pyc" :=
    ⟨_, rfl, Option.isNone_iff_eq_none.mp (by decide +kernel),
      Option.isNone_iff_eq_none.mp (by decide +kernel),
      Option.isNone_iff_eq_none.mp (by decide +kernel)⟩
  have hhit : OutputFile.Hit denied := .inl ⟨_, rfl, rfl⟩
  refine ⟨⟨by decide +kernel, fun file hfile => ?_⟩, hassembles, hhit, ?_⟩
  · obtain ⟨path, hpath, -, -, -, -, hiff⟩ :=
      (run_writes ["a.pyc"] content ⟨0, none⟩ CodeObject.tag .written).2.1 file hfile
    obtain rfl : "a.pyc" = path := by simpa using hpath
    exact hiff.mpr ⟨by simp [Path.SeparatorFree], by decide, by decide +kernel⟩
  · obtain ⟨-, -, -, -, messages, hprinted, -, hmissing, hreported, hhits⟩ :=
      run_writes ["a.pyc"] content denied CodeObject.tag .written
    obtain ⟨failure, hfailure, hfault⟩ := hhits "a.pyc" rfl hassembles hhit
    obtain rfl := Option.some.inj hfailure
    refine ⟨messages, hprinted, hreported _ hfault, fun hmem => ?_⟩
    have hnone : content "a.pyc" = none := ((hmissing "a.pyc").mp hmem).2
    cases hnone

end CommandLine

end BytecodeAssembler
