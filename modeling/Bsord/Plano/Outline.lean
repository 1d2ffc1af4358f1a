import Bsord.Plano.Calls

/-! # Reading the lines of commands back

The lines that commands print are an outline of their calls.  As long as no exception of a command is
caught, a reader of the lines recovers which commands have been called during which.
-/

namespace Bsord.Plano

open Library

variable {Value : Type} {objects : Objects Value} {vars : List (Command Value)} {s s' : State Value}
  {label : Label Value} {labels : List (Label Value)}

/-! ## Outlines -/

/-- Calls that have finished, in order: the title and the name of each, and the calls during it. -/
inductive Calls where
  | nil
  | cons (title name : List Char) (inside rest : Calls)
deriving DecidableEq

def Calls.append : Calls → Calls → Calls
  | nil, last => last
  | cons title name inside rest, last => cons title name inside (rest.append last)

/-- The calls that have finished and those under way, the last one first. -/
structure Outline where
  finished : Calls
  underWay : List (List Char × Calls)
deriving DecidableEq

def Outline.empty : Outline := ⟨.nil, []⟩

def Outline.start (outline : Outline) (title : List Char) : Outline :=
  { outline with underWay := (title, .nil) :: outline.underWay }

def Outline.finish (outline : Outline) (name : List Char) : Outline :=
  match outline.underWay with
  | [] => outline
  | [(title, inside)] => ⟨outline.finished.append (.cons title name inside .nil), []⟩
  | (title, inside) :: (outer, before) :: underWay =>
    { outline with underWay := (outer, before.append (.cons title name inside .nil)) :: underWay }

def Label.record : Label Value → Outline → Outline
  | .start command displayArgs, outline => outline.start (title command.name displayArgs)
  | .finish command, outline => outline.finish command.name.toList
  | _, outline => outline

/-- The calls of commands in a run with these labels. -/
def callsMade (labels : List (Label Value)) : Outline :=
  labels.foldl (fun outline label => label.record outline) .empty

/-! ## The reader -/

inductive Reading where
  | start (dashes : Nat) (title : List Char)
  | finish (dashes : Nat) (name : List Char)
  | resume (dashes : Nat) (name : List Char)
deriving DecidableEq

def readLine (text : List Char) : Option Reading :=
  match text.dropWhile (· = '-') with
  | '>' :: ' ' :: title => some (.start ((text.takeWhile (· = '-')).length / 2) title)
  | '|' :: ' ' :: name => some (.resume ((text.takeWhile (· = '-')).length / 2) name)
  | '<' :: text =>
    match text.dropWhile (· = '-') with
    | ' ' :: name => some (.finish ((text.takeWhile (· = '-')).length / 2) name)
    | _ => none
  | _ => none

/-- The call that was started last is one of the command `name`. -/
def Outline.isIn (outline : Outline) (name : List Char) : Bool :=
  outline.underWay.head?.any fun call => name.isPrefixOf call.1

/-- The next line; `none` where it does not continue the outline. -/
def Outline.read (outline : Outline) (text : List Char) : Option Outline :=
  match readLine text with
  | some (.start dashes title) =>
    if dashes = outline.underWay.length + 1 then some (outline.start title) else none
  | some (.finish dashes name) =>
    if dashes = outline.underWay.length ∧ outline.isIn name then some (outline.finish name) else none
  | some (.resume dashes name) => if dashes = outline.underWay.length ∧ outline.isIn name then some outline else none
  | none => none

def readCalls (lines : List (List Char)) : Option Outline := lines.foldlM Outline.read .empty

/-! ## Lines -/

theorem dashes_eq (count : Nat) : dashes count = List.replicate (2 * count) '-' := by
  induction count with
  | zero => rfl
  | succ count ih =>
    rw [dashes, List.replicate_succ, List.flatten_cons, ← dashes, ih, Nat.mul_succ, Nat.add_comm, List.replicate_add]
    rfl

theorem span_dashes (count : Nat) {c : Char} (other : c ≠ '-') (rest : List Char) :
    (dashes count ++ c :: rest).dropWhile (· = '-') = c :: rest ∧
      ((dashes count ++ c :: rest).takeWhile (· = '-')).length / 2 = count := by
  have all : ∀ d ∈ List.replicate (2 * count) '-', decide (d = '-') = true := by
    intro d member
    simp [List.eq_of_mem_replicate member]
  rw [dashes_eq, List.dropWhile_append_of_pos all, List.takeWhile_append_of_pos all]
  simp [other]

def Line.reading : Line → Reading
  | start count name displayArgs => .start count (title name displayArgs)
  | finish count name => .finish count name.toList
  | resume count name => .resume count name.toList

theorem readLine_text (line : Line) : readLine line.text = some line.reading := by
  cases line with
  | start count name displayArgs =>
    obtain ⟨rest, length⟩ := span_dashes count (by decide : '>' ≠ '-') (' ' :: title name displayArgs)
    have text : (Line.start count name displayArgs).text = dashes count ++ '>' :: ' ' :: title name displayArgs := by
      simp [Line.text]
    simp [readLine, text, rest, length, Line.reading]
  | finish count name =>
    obtain ⟨rest, length⟩ := span_dashes count (by decide : ' ' ≠ '-') name.toList
    have text : (Line.finish count name).text = '<' :: (dashes count ++ ' ' :: name.toList) := by
      simp [Line.text]
    simp [readLine, text, rest, length, Line.reading]
  | resume count name =>
    obtain ⟨rest, length⟩ := span_dashes count (by decide : '|' ≠ '-') (' ' :: name.toList)
    have text : (Line.resume count name).text = dashes count ++ '|' :: ' ' :: name.toList := by
      simp [Line.text]
    simp [readLine, text, rest, length, Line.reading]

theorem read_start (outline : Outline) (name : String) (displayArgs : List String) :
    outline.read (Line.start (outline.underWay.length + 1) name displayArgs).text =
      some (outline.start (title name displayArgs)) := by
  simp [Outline.read, readLine_text, Line.reading]

theorem read_finish {outline : Outline} {name : String} (isIn : outline.isIn name.toList) :
    outline.read (Line.finish outline.underWay.length name).text = some (outline.finish name.toList) := by
  simp [Outline.read, readLine_text, Line.reading, isIn]

theorem read_resume {outline : Outline} {name : String} (isIn : outline.isIn name.toList) :
    outline.read (Line.resume outline.underWay.length name).text = some outline := by
  simp [Outline.read, readLine_text, Line.reading, isIn]

/-! ## Runs -/

/-- The command whose function the call runs, with the length of its dashes. -/
def Frame.called : Frame Value → Option (Command Value × Nat)
  | call self count => some (self, count)
  | _ => none

/-- The title of a call is one of a call of the command. -/
def Titled (call : List Char × Calls) (command : Command Value) : Prop :=
  ∃ displayArgs, call.1 = title command.name displayArgs

/-- The running commands are those under way, and the outline has them in the same order. -/
structure Aligned (frames : List (Frame Value)) (runningCommands : List (Command Value)) (outline : Outline) :
    Prop where
  frames : frames.filterMap Frame.called = (runningCommands.zipIdx 1).reverse
  titled : List.Forall₂ Titled outline.underWay runningCommands.reverse

theorem called_dropWhile (frames : List (Frame Value)) :
    (frames.dropWhile Frame.isOverridden).filterMap Frame.called = frames.filterMap Frame.called := by
  induction frames with
  | nil => rfl
  | cons frame frames ih =>
    cases frame with
    | overridden self =>
      have called : (Frame.overridden self).called = none := rfl
      rw [List.dropWhile_cons_of_pos rfl, ih, List.filterMap_cons_none called]
    | call self count => rfl
    | parent command => rfl

theorem filterMap_call (self : Command Value) (count : Nat) (frames : List (Frame Value)) :
    (Frame.call self count :: frames).filterMap Frame.called = (self, count) :: frames.filterMap Frame.called := by
  simp [Frame.called]

variable {frames : List (Frame Value)} {runningCommands : List (Command Value)} {outline : Outline}

theorem Aligned.length (aligned : Aligned frames runningCommands outline) :
    outline.underWay.length = runningCommands.length := by
  rw [aligned.titled.length_eq, List.length_reverse]

theorem Aligned.start (aligned : Aligned frames runningCommands outline) (command : Command Value)
    (displayArgs : List String) :
    Aligned (.call command (runningCommands.length + 1) :: frames) (runningCommands ++ [command])
      (outline.start (title command.name displayArgs)) where
  frames := by
    rw [filterMap_call, aligned.frames]
    simp [List.zipIdx_append, Nat.add_comm]
  titled := by
    rw [List.reverse_append]
    exact .cons ⟨displayArgs, rfl⟩ aligned.titled

theorem titled_isIn {command : Command Value} {commands : List (Command Value)}
    (titled : List.Forall₂ Titled outline.underWay (command :: commands)) : outline.isIn command.name.toList := by
  obtain ⟨finished, underWay⟩ := outline
  cases titled with
  | cons head tail =>
    obtain ⟨displayArgs, same⟩ := head
    simp [Outline.isIn, same, title]

theorem titled_finish {command : Command Value} {commands : List (Command Value)} (name : List Char)
    (titled : List.Forall₂ Titled outline.underWay (command :: commands)) :
    List.Forall₂ Titled (outline.finish name).underWay commands := by
  obtain ⟨finished, underWay⟩ := outline
  cases titled with
  | cons head tail =>
    cases tail with
    | nil => exact .nil
    | cons next tail => exact .cons next tail

theorem Aligned.finish {self : Command Value} {count : Nat}
    (aligned : Aligned (.call self count :: frames) runningCommands outline) :
    count = outline.underWay.length ∧ outline.isIn self.name.toList ∧
      Aligned frames runningCommands.dropLast (outline.finish self.name.toList) := by
  have length := aligned.length
  obtain ⟨called, titled⟩ := aligned
  rw [filterMap_call] at called
  obtain rfl | ⟨before, last, rfl⟩ := runningCommands.eq_nil_or_concat'
  · cases called
  · simp only [List.zipIdx_append, List.zipIdx_singleton, List.reverse_append, List.reverse_singleton,
      List.singleton_append, List.cons.injEq, Prod.mk.injEq] at called
    obtain ⟨⟨rfl, rfl⟩, called⟩ := called
    rw [List.reverse_append, List.reverse_singleton, List.singleton_append] at titled
    refine ⟨by rw [length, List.length_append, List.length_singleton, Nat.add_comm], titled_isIn titled, ?_⟩
    rw [List.dropLast_concat]
    exact ⟨called, titled_finish _ titled⟩

theorem Aligned.resumed (aligned : Aligned frames runningCommands outline) :
    ((Plano.resumed runningCommands.length runningCommands).map Line.text).foldlM Outline.read outline =
      some outline := by
  obtain rfl | ⟨before, last, rfl⟩ := runningCommands.eq_nil_or_concat'
  · rfl
  · have titled := aligned.titled
    rw [List.reverse_append, List.reverse_singleton, List.singleton_append] at titled
    have read := read_resume (titled_isIn titled)
    rw [aligned.length, List.length_append, List.length_singleton] at read
    simp [Plano.resumed, read]

theorem read_step (aligned : s.control ≠ .raising → Aligned s.frames s.runningCommands outline)
    (uncaught : label ≠ .caught) (step : Step objects vars s label s') :
    (∃ lines, s'.output = s.output ++ lines ∧ (lines.map Line.text).foldlM Outline.read outline =
      some (label.record outline)) ∧
      (s'.control ≠ .raising → Aligned s'.frames s'.runningCommands (label.record outline)) := by
  cases step with
  | call running command args kwargs =>
    exact ⟨⟨[], by simp, rfl⟩, fun _ => aligned (by simp [running])⟩
  | unbound calling missing => exact ⟨⟨[], by simp, rfl⟩, fun active => absurd rfl active⟩
  | override calling bound other =>
    have aligned := aligned (by simp [calling])
    exact ⟨⟨[], by simp, rfl⟩, fun _ => ⟨aligned.frames, aligned.titled⟩⟩
  | display calling bound missing => exact ⟨⟨[], by simp, rfl⟩, fun active => absurd rfl active⟩
  | @start self args kwargs calling bound displayArgs shown =>
    have aligned := aligned (by simp [calling])
    refine ⟨⟨_, rfl, ?_⟩, fun _ => aligned.start self displayArgs⟩
    have read := read_start outline self.name displayArgs
    rw [aligned.length] at read
    simp [read, Label.record]
  | parent running found =>
    have aligned := aligned (by simp [running])
    exact ⟨⟨[], by simp, rfl⟩, fun _ => ⟨aligned.frames, aligned.titled⟩⟩
  | noParent running called missing => exact ⟨⟨[], by simp, rfl⟩, fun active => absurd rfl active⟩
  | @finish running self count frames top =>
    have aligned := aligned (by simp [running])
    rw [top] at aligned
    obtain ⟨rfl, isIn, rest⟩ := aligned.finish
    refine ⟨⟨_, List.append_assoc .., ?_⟩, fun _ => ⟨by rw [called_dropWhile]; exact rest.frames, rest.titled⟩⟩
    have shorter : outline.underWay.length - 1 = s.runningCommands.dropLast.length := by
      rw [aligned.length, List.length_dropLast]
    -- The line that finishes the call is followed by one about the command that goes on, if there is one.
    have after := rest.resumed
    rw [← shorter] at after
    simp only [List.map_append, List.map_cons, List.map_nil, List.foldlM_append, List.foldlM_cons, List.foldlM_nil,
      read_finish isIn]
    exact after
  | parentReturns running top =>
    have aligned := aligned (by simp [running])
    rw [top] at aligned
    exact ⟨⟨[], by simp, rfl⟩, fun _ => ⟨aligned.frames, aligned.titled⟩⟩
  | raise active top => exact ⟨⟨[], by simp, rfl⟩, fun active => absurd rfl active⟩
  | caught raising called => exact absurd rfl uncaught

/-- In a run in which no exception is caught, the lines printed are read as the calls made: what has been
    called during what, what has finished and, last one first, the commands whose calls are under way. -/
theorem lines_read (run : Run (Step objects vars) .start labels s) (uncaught : .caught ∉ labels) :
    readCalls (s.output.map Line.text) = some (callsMade labels) ∧
      (s.control ≠ .raising →
        List.Forall₂ Titled (callsMade labels).underWay ((s.frames.filterMap Frame.called).map Prod.fst)) := by
  -- The running commands are those under way only as long as no exception has been raised.
  suffices readCalls (s.output.map Line.text) = some (callsMade labels) ∧
      (s.control ≠ .raising → Aligned s.frames s.runningCommands (callsMade labels)) by
    refine ⟨this.1, fun active => ?_⟩
    have aligned := this.2 active
    rw [aligned.frames, List.map_reverse, List.zipIdx_map_fst]
    exact aligned.titled
  induction run with
  | nil => exact ⟨rfl, fun _ => ⟨rfl, .nil⟩⟩
  | @snoc middle last labels label before step ih =>
    obtain ⟨read, aligned⟩ := ih fun member => uncaught (List.mem_append_left _ member)
    have other : label ≠ .caught := fun same => uncaught (by simp [same])
    obtain ⟨⟨lines, output, more⟩, aligned'⟩ := read_step aligned other step
    have made : callsMade (labels ++ [label]) = label.record (callsMade labels) := by simp [callsMade]
    rw [made]
    refine ⟨?_, aligned'⟩
    rw [readCalls] at read
    rw [readCalls, output, List.map_append, List.foldlM_append, read]
    exact more

def built : State Unit where
  control := .running
  frames := []
  runningCommands := []
  output := [.start 1 "build" [], .start 2 "check" [], .finish 2 "check", .resume 1 "build", .finish 1 "build"]

def buildLabels : List (Label Unit) := [.call build [] [], .start build [], .call check [] [], .start check [],
  .finish check, .finish build]

/-- `build` after `check` has returned. -/
def checked : State Unit where
  control := .running
  frames := [.call build 1]
  runningCommands := [build]
  output := [.start 1 "build" [], .start 2 "check" [], .finish 2 "check", .resume 1 "build"]

theorem run_built : Run (Step units [build, check]) .start buildLabels built := by
  have calling : checking.frames = .call check 2 :: [.call build 1] := rfl
  have returning : checked.frames = .call build 1 :: [] := rfl
  have first : Step units [build, check] checking (.finish check) _ := .finish rfl calling
  have second : Step units [build, check] checked (.finish build) _ := .finish rfl returning
  exact .cons (.call rfl build [] []) (.cons (.start rfl rfl rfl) (.cons (.call rfl check [] [])
    (.cons (.start rfl rfl rfl) (.cons first (.single second)))))

theorem lines_read_built :
    readCalls (["--> build", "----> check", "<---- check", "--| build", "<-- build"].map String.toList) =
      some ⟨.cons "build".toList "build".toList (.cons "check".toList "check".toList .nil .nil) .nil, []⟩ :=
  (lines_read run_built (by simp [buildLabels])).1

end Bsord.Plano
