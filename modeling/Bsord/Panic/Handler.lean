import Bsord.Library.Trace
import Bsord.Panic.Report

/-! # The panic handler

The functions of `panic.c`, over an `Unwinder` that answers for libunwind.  An unwinder fixes the
result of every call that the handler can make in one run: `unw_getcontext`, `unw_init_local` at each
of its three places, and every `unw_step` behind them, failing or not.  Nothing relates the answers to
each other; what libunwind promises is stated by hypotheses where a result needs it.

A run of the handler is a trace of its calls into libunwind and of the lines it prints.
-/

namespace Bsord.Panic

open Library Library.Trace

/-! ## libunwind -/

/-- The places where the handler initialises a cursor. -/
inductive Pass where
  | registers
  | fallback
  | backtrace
deriving DecidableEq, Repr

/-- One call of `unw_step`: its result, and what `unw_get_reg` yields after it. -/
structure StepResult where
  ret : Int
  registers : Registers

structure Unwinder where
  getcontext : Int
  initLocal : Pass → Int
  initial : Pass → Registers
  step : Pass → Nat → StepResult
  strerror : Int → Text

/-- A cursor has been initialised at some place and stepped some number of times. -/
structure Cursor where
  pass : Pass
  position : Nat
  registers : Registers

def Unwinder.cursor (u : Unwinder) (pass : Pass) : Nat → Cursor
  | 0 => ⟨pass, 0, u.initial pass⟩
  | position + 1 => ⟨pass, position + 1, (u.step pass position).registers⟩

inductive Event where
  | getcontext (ret : Int)
  | initLocal (ret : Int)
  | step (ret : Int)
  | print (line : Line)

abbrev Handler := Trace Event

def unwGetcontext (u : Unwinder) : Handler Int := do
  emit (.getcontext u.getcontext)
  pure u.getcontext

def unwInitLocal (u : Unwinder) (pass : Pass) : Handler (Int × Cursor) := do
  emit (.initLocal (u.initLocal pass))
  pure (u.initLocal pass, u.cursor pass 0)

def unwStep (u : Unwinder) (cursor : Cursor) : Handler (Int × Cursor) := do
  let result := u.step cursor.pass cursor.position
  emit (.step result.ret)
  pure (result.ret, ⟨cursor.pass, cursor.position + 1, result.registers⟩)

def unwGetReg (cursor : Cursor) (register : Register) : UInt64 := cursor.registers register

/-! ## The functions of `panic.c` -/

/-- A thread name: the kernel keeps at most fifteen bytes. -/
structure ThreadName where
  bytes : Text
  length_le : bytes.length ≤ 15

/-- The process and the thread that the handler runs in. -/
structure Process where
  unwinder : Unwinder
  pid : Int32
  tid : Int32
  programInvocationName : Text
  threadName : ThreadName

def print (line : Line) : Handler Unit := emit (.print line)

def printLibunwindError (u : Unwinder) (err : Int) : Handler Unit := print (.error (u.strerror err))

def printRegistersX8664 (cursor : Cursor) : Handler Unit := do
  let reg := unwGetReg cursor
  print (.raxRow (reg .rax) (reg .rdi) (reg .r11))
  print (.rbxRow (reg .rbx) (reg .rbp) (reg .r12))
  print (.rcxRow (reg .rcx) (reg .r8) (reg .r13))
  print (.rdxRow (reg .rdx) (reg .r9) (reg .r14))
  print (.rsiRow (reg .rsi) (reg .r10) (reg .r15))

/-- How the search loop of `print_registers` is left: by `return`, or with the variables as they stand
    after a `break` or at the limit. -/
inductive SearchExit where
  | returned (value : Int)
  | left (index : Nat) (cursor : Cursor) (ip sp : UInt64)

/-- The search loop of `print_registers`, with the iterations it may still take. -/
def searchLoop (u : Unwinder) (err : Int) :
    Nat → Nat → Cursor → UInt64 → UInt64 → Handler SearchExit
  | 0, index, cursor, ip, sp => pure (.left index cursor ip sp)
  | iterations + 1, index, cursor, _, _ => do
    let (ret, cursor) ← unwStep u cursor
    if ret < 0 then
      -- The source passes `err`, which is 0 here, and not `ret`.
      printLibunwindError u err
      pure (.returned (-1))
    else
      -- A result of 0, the end of the stack, is not told from a frame.
      let ip := unwGetReg cursor .ip
      let sp := unwGetReg cursor .sp
      if ip < 0x3fffffffffff then pure (.left index cursor ip sp)
      else searchLoop u err iterations (index + 1) cursor ip sp

def printRegisters (u : Unwinder) : Handler Int := do
  let (err, cursor) ← unwInitLocal u .registers
  if err ≠ 0 then
    printLibunwindError u err
    pure (-1)
  else
    match ← searchLoop u err backtraceLimit 0 cursor 0 0 with
    | .returned value => pure value
    | .left index cursor ip sp =>
      let (cursor, ip, sp) ←
        if index = backtraceLimit then do
          -- The first frame, but the index stays at the limit; neither result is looked at.
          let (_, cursor) ← unwInitLocal u .fallback
          let (_, cursor) ← unwStep u cursor
          pure (cursor, unwGetReg cursor .ip, unwGetReg cursor .sp)
        else pure (cursor, ip, sp)
      print .registersHeader
      print (.ipSp ip sp)
      printRegistersX8664 cursor
      pure index

/-- The loop of `print_backtrace`, with the iterations it may still take. -/
def backtraceLoop (u : Unwinder) (index : Int) (programInvocationName : Text) :
    Nat → Nat → Cursor → Handler Unit
  | 0, _, _ => pure ()
  | iterations + 1, i, cursor => do
    let (ret, cursor) ← unwStep u cursor
    if ret < 0 then printLibunwindError u ret
    else if ret = 0 then pure ()
    else
      let ip := unwGetReg cursor .ip
      let sp := unwGetReg cursor .sp
      let field := if (i : Int) = index then annotationField ip programInvocationName else []
      print (.frame i ip sp field)
      backtraceLoop u index programInvocationName iterations (i + 1) cursor

def printBacktrace (u : Unwinder) (index : Int) (programInvocationName : Text) : Handler Unit := do
  let (err, cursor) ← unwInitLocal u .backtrace
  if err ≠ 0 then printLibunwindError u err
  else
    print .backtraceHeader
    backtraceLoop u index programInvocationName backtraceLimit 0 cursor

def panicHandler (p : Process) (signum : Int) : Handler Unit := do
  print .panicStart
  print (.signal signum (signalField signum))
  print (.process p.pid p.programInvocationName)
  print (.thread p.tid p.threadName.bytes)
  let err ← unwGetcontext p.unwinder
  if err ≠ 0 then
    -- The `return` here leaves out the last line.
    printLibunwindError p.unwinder err
  else
    let index ← printRegisters p.unwinder
    if 0 ≤ index then printBacktrace p.unwinder index p.programInvocationName
    print .panicEnd

/-! ## The lines of a trace -/

def lines (events : List Event) : List Line :=
  events.filterMap fun
    | .print line => some line
    | _ => none

def printed {α : Type} (run : Handler α) : List Line := lines run.events

@[simp] theorem lines_nil : lines [] = [] := rfl
@[simp] theorem lines_print (line : Line) (events : List Event) :
    lines (.print line :: events) = line :: lines events := rfl
@[simp] theorem lines_getcontext (ret : Int) (events : List Event) :
    lines (.getcontext ret :: events) = lines events := rfl
@[simp] theorem lines_initLocal (ret : Int) (events : List Event) :
    lines (.initLocal ret :: events) = lines events := rfl
@[simp] theorem lines_step (ret : Int) (events : List Event) :
    lines (.step ret :: events) = lines events := rfl

@[simp] theorem lines_append (first second : List Event) :
    lines (first ++ second) = lines first ++ lines second := List.filterMap_append

@[simp] theorem lines_map_print (printed : List Line) : lines (printed.map .print) = printed := by
  induction printed with
  | nil => rfl
  | cons line printed ih => simp [ih]

end Bsord.Panic
