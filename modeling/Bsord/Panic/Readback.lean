import Bsord.Panic.Completeness

/-! # Reading a report back

`Report` is what a complete report says, `Report.lines` the lines it is printed in, and `readReport` a
reader that goes by the formats of these lines.  The lines fit their buffer whenever the name of the
program leaves room for the process line; the reader then recovers everything but the end of a name
that the annotation has no room for.
-/

namespace Bsord.Panic

open Library Library.Printf Library.Numeral

/-- What a report with a registers block and a whole backtrace says. -/
structure Report where
  signal : Signal
  pid : Int32
  tid : Int32
  programInvocationName : Text
  oneLine : 10 ∉ programInvocationName
  threadName : ThreadName
  registers : Registers
  frames : List (UInt64 × UInt64)
  length_le : frames.length ≤ backtraceLimit
  annotated : Fin frames.length

def Report.annotatedIp (report : Report) : UInt64 := (report.frames.get report.annotated).1

def Report.frameLine (report : Report) (i : Nat) (frame : UInt64 × UInt64) : Line :=
  .frame i frame.1 frame.2
    (if i = report.annotated then annotationField frame.1 report.programInvocationName else [])

def Report.headerLines (report : Report) : List Line :=
  [.panicStart, .signal report.signal.number (signalField report.signal.number),
    .process report.pid report.programInvocationName, .thread report.tid report.threadName.bytes] ++
    registerLines report.registers ++ [.backtraceHeader]

def Report.lines (report : Report) : List Line :=
  report.headerLines ++ report.frames.mapIdx report.frameLine ++ [.panicEnd]

def textOf (lines : List Line) : Text := lines.flatMap Line.text

/-! ## The reader -/

structure FrameReading where
  number : Int
  ip : UInt64
  sp : UInt64
  command : Option (UInt64 × Text)
deriving DecidableEq

structure Reading where
  signum : Int
  signalName : Text
  pid : Int
  programInvocationName : Text
  tid : Int
  threadName : Text
  registers : List UInt64
  frames : List FrameReading
deriving DecidableEq

/-- The format of the lines before the frames, whatever they say. -/
def headerFormat : Format :=
  [Line.panicStart, .signal 0 [], .process 0 [], .thread 0 []].flatMap Line.format ++
    ((registerLines fun _ => 0).flatMap Line.format ++ Line.backtraceHeader.format)

def frameFormat : Format := format "  %3d: 0x%016lx (0x%016lx)"
def commandFormat : Format := format " # addr2line -a 0x%lx -e %s\n"

def readCommand (text : Text) : Option (Option (UInt64 × Text) × Text) :=
  if text.head? = some 10 then some (none, text.tail)
  else
    match scan commandFormat text with
    | some ([.word ip, .string path], rest) => some (some (ip, path), rest)
    | _ => none

def readFrame (text : Text) : Option (FrameReading × Text) :=
  match scan frameFormat text with
  | some ([.int number, .word ip, .word sp], rest) =>
    (readCommand rest).map fun (command, rest) => (⟨number, ip, sp, command⟩, rest)
  | _ => none

def readFrames : Nat → Text → List FrameReading × Text
  | 0, text => ([], text)
  | limit + 1, text =>
    match readFrame text with
    | some (frame, rest) => (frame :: (readFrames limit rest).1, (readFrames limit rest).2)
    | none => ([], text)

def word? : Argument → Option UInt64
  | .word value => some value
  | _ => none

def readReport (text : Text) : Option Reading :=
  match scan headerFormat text with
  | some (.int signum :: .string signalName :: .int pid :: .string name :: .int tid ::
      .string threadName :: registers, rest) =>
    if (readFrames backtraceLimit rest).2 = Line.panicEnd.text then
      some ⟨signum, signalName, pid, name, tid, threadName, registers.filterMap word?,
        (readFrames backtraceLimit rest).1⟩
    else none
  | _ => none

/-! ## What is to be read -/

/-- The registers in the order in which they are printed.  RSP is read but not printed. -/
def printedRegisters : List Register :=
  [.ip, .sp, .rax, .rdi, .r11, .rbx, .rbp, .r12, .rcx, .r8, .r13, .rdx, .r9, .r14, .rsi, .r10, .r15]

def Report.frameReading (report : Report) (path : Text) (i : Nat) (frame : UInt64 × UInt64) :
    FrameReading :=
  ⟨i, frame.1, frame.2, if i = report.annotated then some (frame.1, path) else none⟩

def Report.reading (report : Report) (path : Text) : Reading where
  signum := report.signal.number
  signalName := signalField report.signal.number
  pid := report.pid.toInt
  programInvocationName := report.programInvocationName
  tid := report.tid.toInt
  threadName := report.threadName.bytes
  registers := printedRegisters.map report.registers
  frames := report.frames.mapIdx (report.frameReading path)

/-! ## Lines that fit -/

def Line.Fits (line : Line) : Prop := Printf.Fits lineSize line.format line.arguments

instance (line : Line) : Decidable line.Fits := inferInstanceAs (Decidable (Printf.Fits _ _ _))

/-- The line is printed with all its arguments and with the newline that ends it. -/
structure Line.Whole (line : Line) : Prop where
  untruncated : line.text = sprintf line.format line.arguments
  newline : line.text.getLast? = some 10

theorem sprintf_newline (line : Line) :
    ∃ body, sprintf line.format line.arguments = body ++ [10] := by
  have split : line.format = line.format.dropLast ++ [.byte 10] := by
    cases line <;> rfl
  have accepts : Accepts line.format.dropLast line.arguments := by
    cases line <;> exact trivial
  refine ⟨sprintf line.format.dropLast line.arguments, ?_⟩
  -- The last piece takes no argument, so all are used up before it.
  rw [split]
  simpa using sprintf_append accepts [.byte 10] []

theorem Line.whole_iff_fits (line : Line) : line.Whole ↔ line.Fits := by
  constructor
  · intro whole
    rw [Line.Fits, Printf.Fits, ← whole.untruncated]
    exact length_snprintf_lt (by decide) _ _
  · intro fits
    have untruncated : line.text = sprintf line.format line.arguments := snprintf_of_fits fits
    obtain ⟨body, newline⟩ := sprintf_newline line
    exact ⟨untruncated, by rw [untruncated, newline, List.getLast?_concat]⟩

theorem fits_signal (signal : Signal) : (Line.signal signal.number (signalField signal.number)).Fits := by
  cases signal <;> decide

theorem length_int32_le (n : Int32) : (signedNumeral n.toInt).length ≤ 11 :=
  length_signedNumeral_le (by omega) (by have := n.toInt_lt; have := n.le_toInt; omega)

theorem fits_process_iff (pid : Int32) (programInvocationName : Text) :
    (Line.process pid programInvocationName).Fits ↔
      (signedNumeral pid.toInt).length + programInvocationName.length ≤ 242 := by
  simp [Line.Fits, Printf.Fits, Line.format, Line.arguments, format, Format.parse, Conversion.render,
    lineSize]
  omega

theorem fits_thread (tid : Int32) (name : ThreadName) : (Line.thread tid name.bytes).Fits := by
  have number := length_int32_le tid
  have bytes := name.length_le
  simp [Line.Fits, Printf.Fits, Line.format, Line.arguments, format, Format.parse, Conversion.render,
    lineSize]
  omega

theorem fits_registerLines (registers : Registers) : ∀ line ∈ registerLines registers, line.Fits := by
  have short := fun register => length_render_hex_le 16 (registers register)
  intro line mem
  simp only [registerLines, List.mem_cons, List.not_mem_nil, or_false] at mem
  rcases mem with rfl | mem
  · decide
  rcases mem with rfl | rfl | rfl | rfl | rfl | rfl
  all_goals
    simp [Line.Fits, Printf.Fits, Line.format, Line.arguments, format, Format.parse, lineSize]
    grind

theorem fits_frame {i : Nat} (bound : i < backtraceLimit) (ip sp : UInt64) {field : Text}
    (room : field.length < fieldSize) : (Line.frame i ip sp field).Fits := by
  have number : (signedNumeral i).length ≤ 4 :=
    length_signedNumeral_le (by omega) (by simp only [backtraceLimit] at bound; omega)
  have := length_render_hex_le 16 ip
  have := length_render_hex_le 16 sp
  simp only [fieldSize] at room
  simp [Line.Fits, Printf.Fits, Line.format, Line.arguments, format, Format.parse, lineSize]
  grind [Conversion.render]

/-! ## The annotation -/

theorem length_annotationField_lt (ip : UInt64) (programInvocationName : Text) :
    (annotationField ip programInvocationName).length < fieldSize :=
  length_snprintf_lt (by decide) _ _

theorem fits_annotation_iff (ip : UInt64) (programInvocationName : Text) :
    Printf.Fits fieldSize (format " # addr2line -a 0x%lx -e %s")
        [.word ip, .string programInvocationName] ↔
      (numeral 16 ip.toNat).length + programInvocationName.length ≤ 41 := by
  rw [Printf.Fits, addr2line_append, List.length_append, length_addr2line, fieldSize]
  omega

/-! ## The lines read back -/

theorem textOf_of_whole {lines : List Line} (whole : ∀ line ∈ lines, line.Whole) :
    textOf lines = sprintf (lines.flatMap Line.format) (lines.flatMap Line.arguments) := by
  induction lines with
  | nil => rfl
  | cons line lines ih =>
    have here := whole line List.mem_cons_self
    have behind := ih fun line mem => whole line (List.mem_cons_of_mem _ mem)
    simp only [textOf, List.flatMap_cons] at behind ⊢
    rw [sprintf_append line.accepts, here.untruncated, behind]

theorem readable_lines {lines : List Line} (readable : ∀ line ∈ lines, Readable line.format line.arguments) :
    Readable (lines.flatMap Line.format) (lines.flatMap Line.arguments) := by
  induction lines with
  | nil => exact trivial
  | cons line lines ih =>
    simp only [List.flatMap_cons]
    have behind := ih fun line mem => readable line (List.mem_cons_of_mem _ mem)
    exact (readable line List.mem_cons_self).append behind

theorem readable_signal (signal : Signal) :
    Readable (Line.signal 0 []).format [.int signal.number, .string (signalField signal.number)] := by
  -- 41 is the closing bracket.
  have absent : 41 ∉ signalField signal.number := by
    cases signal <;> decide
  have name : FirstAtEnd (signalField signal.number) (ascii ")\n") :=
    show FirstAtEnd _ ([] ++ 41 :: [10]) from firstAtEnd_of_absent absent List.not_mem_nil
  simp [Line.format, format, Format.parse, Readable, Conversion.Delimited, leadingLiteral]
  exact ⟨by decide, name⟩

theorem readable_process (pid : Int32) {programInvocationName : Text} (oneLine : 10 ∉ programInvocationName) :
    Readable (Line.process pid programInvocationName).format
      (Line.process pid programInvocationName).arguments := by
  have name : FirstAtEnd programInvocationName (ascii ")\n") :=
    show FirstAtEnd _ ([41] ++ 10 :: []) from firstAtEnd_of_absent oneLine (by decide)
  simp [Line.format, Line.arguments, format, Format.parse, Readable, Conversion.Delimited, leadingLiteral]
  exact ⟨by decide, name⟩

/-- The thread's name may have any bytes, also a newline: what is printed behind it is longer than a
    name can be. -/
theorem readable_thread (tid : Int32) (name : ThreadName) (ip sp : UInt64) :
    Readable ([Line.thread tid name.bytes, .registersHeader, .ipSp ip sp].flatMap Line.format)
      ([Line.thread tid name.bytes, .registersHeader, .ipSp ip sp].flatMap Line.arguments) := by
  have name : FirstAtEnd name.bytes (ascii ")\nRegisters:\n     IP: 0x") :=
    firstAtEnd_of_short (by decide) (Nat.le_trans name.length_le (by decide))
  simp [Line.format, Line.arguments, format, Format.parse, Readable, Conversion.Delimited, leadingLiteral]
  exact ⟨by decide, name, by decide⟩

theorem readable_registerRows (registers : Registers) :
    ∀ line ∈ (registerLines registers).drop 2, Readable line.format line.arguments := by
  intro line mem
  simp only [registerLines, List.drop_succ_cons, List.drop_zero, List.mem_cons, List.not_mem_nil,
    or_false] at mem
  rcases mem with rfl | rfl | rfl | rfl | rfl
  all_goals
    simp [Line.format, Line.arguments, format, Format.parse, Readable, Conversion.Delimited,
      leadingLiteral]
    decide

theorem headerFormat_eq (report : Report) : headerFormat = report.headerLines.flatMap Line.format := by
  simp only [headerFormat, Report.headerLines, registerLines, List.flatMap_cons, List.flatMap_nil,
    List.cons_append, List.nil_append, List.append_nil, List.append_assoc, Line.format]

theorem readable_header (report : Report) :
    Readable headerFormat (report.headerLines.flatMap Line.arguments) := by
  let opening : List Line := [.panicStart, .signal report.signal.number (signalField report.signal.number),
    .process report.pid report.programInvocationName]
  let middle : List Line := [.thread report.tid report.threadName.bytes, .registersHeader,
    .ipSp (report.registers .ip) (report.registers .sp)]
  let rows := (registerLines report.registers).drop 2
  have start : ∀ line ∈ opening, Readable line.format line.arguments := by
    intro line mem
    simp only [opening, List.mem_cons, List.not_mem_nil, or_false] at mem
    rcases mem with rfl | rfl | rfl
    · simp [Line.format, Line.arguments, format, Format.parse, Readable]
    · exact readable_signal report.signal
    · exact readable_process report.pid report.oneLine
  have ending : Readable Line.backtraceHeader.format Line.backtraceHeader.arguments := by
    simp [Line.format, Line.arguments, format, Format.parse, Readable]
  have parts : report.headerLines = opening ++ (middle ++ (rows ++ [.backtraceHeader])) := rfl
  rw [headerFormat_eq report, parts]
  simp only [List.flatMap_append, List.flatMap_singleton]
  exact (readable_lines start).append ((readable_thread _ _ _ _).append
    ((readable_lines (readable_registerRows _)).append ending))

theorem scan_header (report : Report) (whole : ∀ line ∈ report.headerLines, line.Whole) (rest : Text) :
    scan headerFormat (textOf report.headerLines ++ rest) =
      some (report.headerLines.flatMap Line.arguments, rest) := by
  rw [textOf_of_whole whole, ← headerFormat_eq]
  exact scan_sprintf (readable_header report) rest

theorem readCommand_annotation (ip : UInt64) {path : Text} (oneLine : 10 ∉ path) (rest : Text) :
    readCommand (addr2line ip ++ path ++ 10 :: rest) = some (some (ip, path), rest) := by
  have text : addr2line ip ++ path ++ 10 :: rest =
      sprintf commandFormat [.word ip, .string path] ++ rest := by
    simp [addr2line, commandFormat, format, Format.parse, Conversion.render]
    rfl
  have readable : Readable commandFormat [.word ip, .string path] := by
    have ends : FirstAtEnd path (ascii "\n") :=
      show FirstAtEnd _ ([] ++ 10 :: []) from firstAtEnd_of_absent oneLine List.not_mem_nil
    simp [commandFormat, format, Format.parse, Readable, Conversion.Delimited, leadingLiteral]
    exact ⟨by decide, ends⟩
  have head : (addr2line ip ++ path ++ 10 :: rest).head? ≠ some 10 := by
    simp [addr2line, format, Format.parse]
    decide
  rw [readCommand, if_neg head, text, scan_sprintf readable]

theorem readFrame_frame {i : Nat} {ip sp : UInt64} {field : Text} {command : Option (UInt64 × Text)}
    (whole : (Line.frame i ip sp field).Whole) (rest : Text)
    (reads : readCommand (field ++ 10 :: rest) = some (command, rest)) :
    readFrame ((Line.frame i ip sp field).text ++ rest) = some (⟨i, ip, sp, command⟩, rest) := by
  have text : (Line.frame i ip sp field).text ++ rest =
      sprintf frameFormat [.int i, .word ip, .word sp] ++ (field ++ 10 :: rest) := by
    rw [whole.untruncated]
    simp [Line.format, Line.arguments, frameFormat, format, Format.parse, Conversion.render]
    rfl
  have readable : Readable frameFormat [.int i, .word ip, .word sp] := by
    simp [frameFormat, format, Format.parse, Readable, Conversion.Delimited, leadingLiteral]
    decide
  rw [readFrame, text, scan_sprintf readable]
  simp only [reads, Option.map_some]

/-- The end of the program's name that the annotation has no room for is cut off. -/
def Report.path (report : Report) : Text :=
  report.programInvocationName.take (41 - (numeral 16 report.annotatedIp.toNat).length)

theorem Report.frameLine_whole (report : Report) {i : Nat} (bound : i < report.frames.length)
    (frame : UInt64 × UInt64) : (report.frameLine i frame).Whole := by
  have room : (if i = report.annotated then
      annotationField frame.1 report.programInvocationName else []).length < fieldSize := by
    split
    · exact length_annotationField_lt _ _
    · decide
  have inside := report.length_le
  exact (Line.whole_iff_fits _).mpr (fits_frame (by omega) _ _ room)

theorem readFrame_frameLine (report : Report) {i : Nat} (bound : i < report.frames.length) (rest : Text) :
    readFrame ((report.frameLine i report.frames[i]).text ++ rest) =
      some (report.frameReading report.path i report.frames[i], rest) := by
  apply readFrame_frame (report.frameLine_whole bound _)
  by_cases here : i = report.annotated
  · have ip : report.frames[i].1 = report.annotatedIp := by
      subst here
      rfl
    have oneLine : 10 ∉ report.path := fun mem => report.oneLine (List.mem_of_mem_take mem)
    rw [if_pos here, if_pos here, annotationField_eq, ip]
    exact readCommand_annotation report.annotatedIp oneLine rest
  · rw [if_neg here, if_neg here]
    rfl

theorem readFrames_mapIdx {α : Type} {rest : Text} (ends : readFrame rest = none) (frames : List α) :
    ∀ (line : Nat → α → Line) (reading : Nat → α → FrameReading) (limit : Nat),
      frames.length ≤ limit →
      (∀ i (bound : i < frames.length) behind, readFrame ((line i frames[i]).text ++ behind) =
        some (reading i frames[i], behind)) →
      readFrames limit (textOf (frames.mapIdx line) ++ rest) = (frames.mapIdx reading, rest) := by
  induction frames with
  | nil =>
    intro line reading limit _ _
    cases limit with
    | zero => rfl
    | succ limit => simp [readFrames, textOf, ends]
  | cons frame frames ih =>
    intro line reading limit bound reads
    cases limit with
    | zero => simp at bound
    | succ limit =>
      have first : ∀ behind, readFrame ((line 0 frame).text ++ behind) = some (reading 0 frame, behind) :=
        reads 0 (by simp)
      have others := ih (fun i => line (i + 1)) (fun i => reading (i + 1)) limit
        (by simpa using bound) fun i inside => reads (i + 1) (by simpa using inside)
      simp only [List.mapIdx_cons, textOf, List.flatMap_cons, List.append_assoc] at others ⊢
      rw [readFrames, first]
      simp only [others]

/-! ## The report read back -/

/-- Everything a report says is in its text, and the annotation names the program in full. -/
structure Report.Lossless (report : Report) : Prop where
  linesWhole : ∀ line ∈ report.lines, line.Whole
  annotationFits : Printf.Fits fieldSize (format " # addr2line -a 0x%lx -e %s")
    [.word report.annotatedIp, .string report.programInvocationName]
  readBack : readReport (textOf report.lines) = some (report.reading report.programInvocationName)

theorem Report.linesWhole_iff (report : Report) : (∀ line ∈ report.lines, line.Whole) ↔
    (signedNumeral report.pid.toInt).length + report.programInvocationName.length ≤ 242 := by
  rw [← fits_process_iff, ← Line.whole_iff_fits]
  constructor
  · intro whole
    exact whole _ (by simp [Report.lines, Report.headerLines])
  · intro process line mem
    simp only [Report.lines, Report.headerLines, List.mem_append, List.mem_cons, List.not_mem_nil,
      or_false] at mem
    rcases mem with ((((rfl | rfl | rfl | rfl) | mem) | rfl) | mem) | rfl
    · exact (Line.whole_iff_fits _).mpr (by decide)
    · exact (Line.whole_iff_fits _).mpr (fits_signal report.signal)
    · exact process
    · exact (Line.whole_iff_fits _).mpr (fits_thread report.tid report.threadName)
    · exact (Line.whole_iff_fits _).mpr (fits_registerLines report.registers line mem)
    · exact (Line.whole_iff_fits _).mpr (by decide)
    · obtain ⟨i, bound, rfl⟩ := List.mem_mapIdx.mp mem
      exact report.frameLine_whole bound _
    · exact (Line.whole_iff_fits _).mpr (by decide)

theorem readReport_lines (report : Report) (whole : ∀ line ∈ report.lines, line.Whole) :
    readReport (textOf report.lines) = some (report.reading report.path) := by
  have text : textOf report.lines = textOf report.headerLines ++
      (textOf (report.frames.mapIdx report.frameLine) ++ Line.panicEnd.text) := by
    simp [textOf, Report.lines]
  have header := scan_header report
    (fun line mem => whole line (by simp only [Report.lines, List.mem_append]; exact .inl (.inl mem)))
    (textOf (report.frames.mapIdx report.frameLine) ++ Line.panicEnd.text)
  have ends : readFrame Line.panicEnd.text = none := by decide
  have frames := readFrames_mapIdx ends report.frames report.frameLine (report.frameReading report.path)
    backtraceLimit report.length_le fun i bound => readFrame_frameLine report bound
  rw [readReport, text, header]
  simp only [Report.headerLines, registerLines, List.cons_append, List.nil_append, List.flatMap_cons,
    List.flatMap_nil, Line.arguments, frames, if_true, Report.reading]
  rfl

theorem Report.readBack (report : Report) :
    ((∀ line ∈ report.lines, line.Whole) ↔
      (signedNumeral report.pid.toInt).length + report.programInvocationName.length ≤ 242) ∧
    ((signedNumeral report.pid.toInt).length + report.programInvocationName.length ≤ 242 →
      readReport (textOf report.lines) = some (report.reading (report.programInvocationName.take
        (41 - (numeral 16 report.annotatedIp.toNat).length)))) ∧
    (report.Lossless ↔ (numeral 16 report.annotatedIp.toNat).length +
      report.programInvocationName.length ≤ 41) := by
  have whole := report.linesWhole_iff
  refine ⟨whole, fun room => readReport_lines report (whole.mpr room), ?_⟩
  constructor
  · exact fun lossless => (fits_annotation_iff _ _).mp lossless.annotationFits
  · intro room
    have pid := length_int32_le report.pid
    have linesWhole := whole.mpr (by omega)
    have path : report.path = report.programInvocationName := List.take_of_length_le (by omega)
    have readBack := readReport_lines report linesWhole
    rw [path] at readBack
    exact ⟨linesWhole, (fits_annotation_iff _ _).mpr room, readBack⟩

/-! ## The reports of the handler -/

theorem printed_printBacktrace_of_end {u : Unwinder} {n : Nat} (same : SameStack u)
    (cursor : u.initLocal .backtrace = 0) (positive : ∀ i < n, 0 < u.ret .registers i)
    (ends : u.ret .registers n = 0) (index : Int) (programInvocationName : Text) :
    printed (printBacktrace u index programInvocationName) =
      .backtraceHeader :: (List.range (min n backtraceLimit)).map (frameLine u index programInvocationName) := by
  have spec := printBacktrace_spec u index programInvocationName
  rw [printed]
  generalize (printBacktrace u index programInvocationName).events = trace at spec
  cases spec with
  | noCursor failed => exact absurd cursor failed
  | walked m ending _ limit walked walkEnds =>
    have length := walk_length same positive (Int.le_of_eq ends) limit walked walkEnds
    -- The walk ends at the limit or at the 0, so no error line closes it.
    have closing : lines ending = [] := by
      cases walkEnds with
      | limit _ => rfl
      | stackEnd _ _ => rfl
      | failed below negative =>
        have last : m = n := by omega
        rw [last, same.ret .backtrace .registers n fun j lt => walked j (by omega), ends] at negative
        exact absurd negative (Int.lt_irrefl 0)
    simp [closing, length]

/-- The report of a process whose search stops at frame `i` of a stack of `n` frames. -/
structure Report.Of (report : Report) (p : Process) (signal : Signal) (i n : Nat) : Prop where
  signal : report.signal = signal
  pid : report.pid = p.pid
  tid : report.tid = p.tid
  programInvocationName : report.programInvocationName = p.programInvocationName
  threadName : report.threadName = p.threadName
  registers : report.registers = p.unwinder.registersAt .registers i
  frames : report.frames = (List.range (min n backtraceLimit)).map fun j =>
    (p.unwinder.registersAt .registers j .ip, p.unwinder.registersAt .registers j .sp)
  annotated : report.annotated = i

/-- A handler whose search stops at a frame prints a report of all frames, on a stack that ends well. -/
theorem printed_panicHandler_report (p : Process) (signal : Signal) (same : SameStack p.unwinder)
    (context : p.unwinder.getcontext = 0) (cursors : ∀ pass, p.unwinder.initLocal pass = 0)
    (oneLine : 10 ∉ p.programInvocationName) {i n : Nat} (bound : i < backtraceLimit)
    (searched : Searched p.unwinder i) (reaches : Reaches p.unwinder .registers i)
    (low : Low p.unwinder .registers i) (positive : ∀ j < n, 0 < p.unwinder.ret .registers j)
    (ends : p.unwinder.ret .registers n = 0) :
    ∃ report : Report, report.Of p signal i n ∧ printed (panicHandler p signal.number) = report.lines := by
  have inside : i < n := by
    by_contra beyond
    have := reaches n (by omega)
    omega
  obtain ⟨index, block⟩ := printRegisters_found (cursors .registers) bound searched
    (Int.le_of_lt (reaches i (Nat.le_refl i))) low
  let frame := fun j => (p.unwinder.registersAt .registers j .ip, p.unwinder.registersAt .registers j .sp)
  let report : Report := {
    signal, oneLine
    pid := p.pid
    tid := p.tid
    programInvocationName := p.programInvocationName
    threadName := p.threadName
    registers := p.unwinder.registersAt .registers i
    frames := (List.range (min n backtraceLimit)).map frame
    length_le := by simp
    annotated := ⟨i, by simp; omega⟩ }
  have frames : (List.range (min n backtraceLimit)).map
      (frameLine p.unwinder i p.programInvocationName) = report.frames.mapIdx report.frameLine := by
    apply List.ext_getElem (by simp [report])
    intro j below _
    have reached : Reaches p.unwinder .registers j := fun k le => positive k (by simp at below; omega)
    have there := same.reaches .registers .backtrace reached
    simp [report, frame, Report.frameLine, frameLine, frameField, same.ip .backtrace .registers j there,
      same.sp .backtrace .registers j there]
  have backtrace := printed_printBacktrace_of_end same (cursors .backtrace) positive ends i
    p.programInvocationName
  refine ⟨report, ⟨rfl, rfl, rfl, rfl, rfl, rfl, rfl, rfl⟩, ?_⟩
  rw [printed_panicHandler, if_neg (not_not_intro context), index, if_pos (by omega), block, backtrace,
    frames]
  simp [Report.lines, Report.headerLines, preamble, report]

/-! ## What the handler prints is read back -/

/-- **Readback**: the lines of a report fit their buffer exactly when the process line does.  The report is then
    read back, up to the end of the program's name in the command; and all of it is read back exactly when the
    digits of the annotated IP and the name together have at most 41 bytes.  Such a report is what the handler
    prints of a stack that ends well when its search stops at a frame, and so its output is read back. -/
theorem report_readBack :
    (∀ report : Report,
      ((∀ line ∈ report.lines, line.Whole) ↔
        (signedNumeral report.pid.toInt).length + report.programInvocationName.length ≤ 242) ∧
      ((signedNumeral report.pid.toInt).length + report.programInvocationName.length ≤ 242 →
        readReport (textOf report.lines) = some (report.reading (report.programInvocationName.take
          (41 - (numeral 16 report.annotatedIp.toNat).length)))) ∧
      (report.Lossless ↔ (numeral 16 report.annotatedIp.toNat).length +
        report.programInvocationName.length ≤ 41)) ∧
    ∀ (p : Process) (signal : Signal) (i n : Nat), SameStack p.unwinder → p.unwinder.getcontext = 0 →
      (∀ pass, p.unwinder.initLocal pass = 0) → 10 ∉ p.programInvocationName → i < backtraceLimit →
      Searched p.unwinder i → Reaches p.unwinder .registers i → Low p.unwinder .registers i →
      (∀ j < n, 0 < p.unwinder.ret .registers j) → p.unwinder.ret .registers n = 0 →
      ∃ report : Report, report.Of p signal i n ∧ printed (panicHandler p signal.number) = report.lines ∧
        ((signedNumeral p.pid.toInt).length + p.programInvocationName.length ≤ 242 →
          readReport (textOf (printed (panicHandler p signal.number))) =
            some (report.reading (p.programInvocationName.take
              (41 - (numeral 16 report.annotatedIp.toNat).length)))) := by
  refine ⟨Report.readBack, ?_⟩
  intro p signal i n same context cursors oneLine bound searched reaches low positive ends
  obtain ⟨report, describes, lines⟩ := printed_panicHandler_report p signal same context cursors oneLine bound
    searched reaches low positive ends
  refine ⟨report, describes, lines, fun room => ?_⟩
  have readBack := report.readBack.2.1
  rw [describes.pid, describes.programInvocationName] at readBack
  rw [lines]
  exact readBack room

/-- The report of the sample stack, down to the frame with the low IP. -/
theorem report_readBack_sample : ∃ report : Report,
    report.frames = [(0x7fbe7503ea00, 0x7fbe74ffdd40), (0x40151a, 0x7fbe74ffede0)] ∧
    readReport (textOf (printed (panicHandler (sampleProcess (steady (frameSteps
      [(0x7fbe7503ea00, 0x7fbe74ffdd40), (0x40151a, 0x7fbe74ffede0)] ⟨0, ipSpRegisters 0 0⟩)))
      Signal.abrt.number))) = some (report.reading (ascii "server")) := by
  obtain ⟨report, describes, _, readBack⟩ := report_readBack.2 (sampleProcess (steady (frameSteps
    [(0x7fbe7503ea00, 0x7fbe74ffdd40), (0x40151a, 0x7fbe74ffede0)] ⟨0, ipSpRegisters 0 0⟩))) .abrt 1 2
    (steady_sameFrames _).toSameStack rfl (fun _ => rfl) (by decide) (by decide) (by decide) (by decide)
    (by decide) (by decide) rfl
  have digits := length_numeral_word report.annotatedIp
  have path : (ascii "server").take (41 - (numeral 16 report.annotatedIp.toNat).length) = ascii "server" := by
    apply List.take_of_length_le
    show 6 ≤ _
    omega
  have whole := readBack (by decide)
  rw [show (sampleProcess _).programInvocationName = ascii "server" from rfl, path] at whole
  exact ⟨report, describes.frames.trans rfl, whole⟩

def sampleReport (programInvocationName : Text) (oneLine : 10 ∉ programInvocationName) : Report where
  signal := .abrt
  pid := 2000049
  tid := 2000053
  programInvocationName := programInvocationName
  oneLine := oneLine
  threadName := sampleThreadName
  registers := ipSpRegisters 0x40151a 0x7fbe74ffede0
  frames := [(0x7fbe7503ea00, 0x7fbe74ffdd40), (0x40151a, 0x7fbe74ffede0)]
  length_le := by decide
  annotated := ⟨1, by decide⟩

/-- The annotation has no room for the path of a program that is started by its full name. -/
theorem report_cuts_path :
    ¬ (sampleReport (ascii "/usr/local/libexec/routers/build/skrouterd") (by decide)).Lossless := by
  intro lossless
  have room := (fits_annotation_iff _ _).mp lossless.annotationFits
  revert room
  decide

end Bsord.Panic
