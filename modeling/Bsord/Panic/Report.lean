import Bsord.Library.Scanf

/-! # The lines of a panic report

Each constructor of `Line` is one call of `print` in `panic.c`, with the arguments of the `snprintf`
before it; `Line.text` is what that call writes.  `field` is the second buffer of the handler, already
cut to `FIELD_SIZE`.
-/

namespace Bsord.Panic

open Library Library.Printf Library.Numeral

def lineSize : Nat := 256
def fieldSize : Nat := 64
def backtraceLimit : Nat := 64

/-- The signals that `install_panic_handler` installs the handler for. -/
inductive Signal where
  | abrt
  | bus
  | fpe
  | ill
  | segv
deriving DecidableEq, Repr

def Signal.number : Signal → Int
  | .abrt => 6
  | .bus => 7
  | .fpe => 8
  | .ill => 4
  | .segv => 11

/-- The `switch` over `signum`; the buffer is zeroed before it. -/
def signalField (signum : Int) : Text :=
  if signum = Signal.abrt.number then ascii "SIGABRT"
  else if signum = Signal.bus.number then ascii "SIGBUS"
  else if signum = Signal.fpe.number then ascii "SIGFPE"
  else if signum = Signal.ill.number then ascii "SIGILL"
  else if signum = Signal.segv.number then ascii "SIGSEGV"
  else []

/-- The registers the handler asks libunwind for. -/
inductive Register where
  | ip | sp
  | rax | rbx | rcx | rdx | rdi | rsi | rbp | rsp
  | r8 | r9 | r10 | r11 | r12 | r13 | r14 | r15
deriving DecidableEq, Repr

abbrev Registers := Register → UInt64

/-- One line of the report, as one call of `print`. -/
inductive Line where
  | panicStart
  | signal (signum : Int) (field : Text)
  | process (pid : Int32) (programInvocationName : Text)
  | thread (tid : Int32) (field : Text)
  | error (message : Text)
  | registersHeader
  | ipSp (ip sp : UInt64)
  | raxRow (rax rdi r11 : UInt64)
  | rbxRow (rbx rbp r12 : UInt64)
  | rcxRow (rcx r8 r13 : UInt64)
  | rdxRow (rdx r9 r14 : UInt64)
  | rsiRow (rsi r10 r15 : UInt64)
  | backtraceHeader
  | frame (i : Nat) (ip sp : UInt64) (field : Text)
  | panicEnd
deriving DecidableEq, Repr

def Line.format : Line → Format
  | .panicStart => Printf.format "-- PANIC START --\n"
  | .signal _ _ => Printf.format "Signal: %d (%s)\n"
  | .process _ _ => Printf.format "Process: %d (%s)\n"
  | .thread _ _ => Printf.format "Thread: %d (%s)\n"
  | .error _ => Printf.format "ERROR: libunwind: %s\n"
  | .registersHeader => Printf.format "Registers:\n"
  | .ipSp _ _ => Printf.format "     IP: 0x%016lx     SP: 0x%016lx\n"
  | .raxRow _ _ _ => Printf.format "    RAX: 0x%016lx[R] RDI: 0x%016lx[0] R11: 0x%016lx\n"
  | .rbxRow _ _ _ => Printf.format "    RBX: 0x%016lx    RBP: 0x%016lx    R12: 0x%016lx\n"
  | .rcxRow _ _ _ => Printf.format "    RCX: 0x%016lx[3]  R8: 0x%016lx[4] R13: 0x%016lx\n"
  | .rdxRow _ _ _ => Printf.format "    RDX: 0x%016lx[2]  R9: 0x%016lx[5] R14: 0x%016lx\n"
  | .rsiRow _ _ _ => Printf.format "    RSI: 0x%016lx[1] R10: 0x%016lx    R15: 0x%016lx\n"
  | .backtraceHeader => Printf.format "Backtrace:\n"
  | .frame _ _ _ _ => Printf.format "  %3d: 0x%016lx (0x%016lx)%s\n"
  | .panicEnd => Printf.format "-- PANIC END --\n"

def Line.arguments : Line → List Argument
  | .signal signum field => [.int signum, .string field]
  | .process pid name => [.int pid.toInt, .string name]
  | .thread tid field => [.int tid.toInt, .string field]
  | .error message => [.string message]
  | .ipSp ip sp => [.word ip, .word sp]
  | .raxRow a b c | .rbxRow a b c | .rcxRow a b c | .rdxRow a b c | .rsiRow a b c =>
    [.word a, .word b, .word c]
  | .frame i ip sp field => [.int i, .word ip, .word sp, .string field]
  | .panicStart | .registersHeader | .backtraceHeader | .panicEnd => []

/-- What `print` writes.  The lines without arguments are printed as they stand in the source, which
    is what `snprintf` would make of them. -/
def Line.text (line : Line) : Text := snprintf lineSize line.format line.arguments

theorem Line.accepts (line : Line) : Accepts line.format line.arguments := by
  cases line <;> exact trivial

/-- The annotation that `print_backtrace` puts on the line of the frame singled out. -/
def annotationField (ip : UInt64) (programInvocationName : Text) : Text :=
  snprintf fieldSize (Printf.format " # addr2line -a 0x%lx -e %s") [.word ip, .string programInvocationName]

/-- The annotation before the name of the program: the command and the IP it asks about. -/
def addr2line (ip : UInt64) : Text := sprintf (Printf.format " # addr2line -a 0x%lx -e ") [.word ip]

/-- The lines that `print_registers` prints of a cursor with these registers. -/
def registerLines (registers : Registers) : List Line :=
  [.registersHeader, .ipSp (registers .ip) (registers .sp),
    .raxRow (registers .rax) (registers .rdi) (registers .r11),
    .rbxRow (registers .rbx) (registers .rbp) (registers .r12),
    .rcxRow (registers .rcx) (registers .r8) (registers .r13),
    .rdxRow (registers .rdx) (registers .r9) (registers .r14),
    .rsiRow (registers .rsi) (registers .r10) (registers .r15)]

/-! ## The annotation -/

theorem addr2line_append (ip : UInt64) (programInvocationName : Text) :
    sprintf (Printf.format " # addr2line -a 0x%lx -e %s") [.word ip, .string programInvocationName] =
      addr2line ip ++ programInvocationName := by
  simp [addr2line, Printf.format, Format.parse, Conversion.render]

theorem length_addr2line (ip : UInt64) : (addr2line ip).length = 22 + (numeral 16 ip.toNat).length := by
  simp [addr2line, Printf.format, Format.parse, Conversion.render]
  omega

/-- The buffer has room for the command and 41 bytes more, which the digits of the IP and the name of
    the program share. -/
theorem annotationField_eq (ip : UInt64) (programInvocationName : Text) :
    annotationField ip programInvocationName =
      addr2line ip ++ programInvocationName.take (41 - (numeral 16 ip.toNat).length) := by
  have digits := length_numeral_word ip
  have room : fieldSize - 1 - (addr2line ip).length = 41 - (numeral 16 ip.toNat).length := by
    rw [length_addr2line, fieldSize]
    omega
  rw [annotationField, snprintf, addr2line_append, List.take_append, room, List.take_of_length_le]
  rw [length_addr2line, fieldSize]
  omega

theorem addr2line_leads (ip : UInt64) (programInvocationName : Text) :
    addr2line ip <+: annotationField ip programInvocationName := by
  rw [annotationField_eq]
  exact List.prefix_append _ _

theorem annotationField_ne_nil (ip : UInt64) (programInvocationName : Text) :
    annotationField ip programInvocationName ≠ [] := by
  have length := length_addr2line ip
  intro empty
  rw [annotationField_eq, List.append_eq_nil_iff] at empty
  rw [empty.1, List.length_nil] at length
  omega

end Bsord.Panic
