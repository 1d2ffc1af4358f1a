import Mathlib.Logic.Function.Basic
import Mathlib.Data.List.Range

/-! # The set-up of the client and its undoing

The function `main` of `client.c`.  What the kernel answers is in `Calls`, by the index of the job that a
call is for; the array of contexts is not initialised, so what it has in it at first is an argument, and so
is the number of jobs, which the source fixes at three.

The output to the terminal is left out and taken to leave `errno` as it is.  So are the threads, which close
no socket.
-/

namespace Bsord.Client

/-! ## The program -/

structure ThreadContext where
  id : Int
  socket : Int
  port : Int
deriving DecidableEq

/-- What a call returns, and the code of its failure, if it fails. -/
structure CallResult where
  ret : Int
  code : Int
deriving DecidableEq

def CallResult.error (result : CallResult) : Option Int :=
  if result.ret < 0 then some result.code else none

def CallResult.errno (result : CallResult) (errno : Int) : Int := result.error.getD errno

structure Calls where
  socket : Nat → CallResult
  connect : Nat → CallResult
  close : Nat → CallResult

/-- The set-up loop, with the iterations it may still take: the array and `errno` where it is left. -/
def setupLoop (calls : Calls) (port : Int) :
    Nat → Nat → (Nat → ThreadContext) → Int → (Nat → ThreadContext) × Int
  | 0, _, contexts, errno => (contexts, errno)
  | iterations + 1, i, contexts, errno =>
    let sock := (calls.socket i).ret
    let errno := (calls.socket i).errno errno
    if sock < 0 then (contexts, errno)
    else
      let contexts := Function.update contexts i ⟨i, sock, port⟩
      let err := (calls.connect i).ret
      let errno := (calls.connect i).errno errno
      if err ≠ 0 then (contexts, errno)
      else setupLoop calls port iterations (i + 1) contexts errno

/-- The cleanup loop, with the iterations it may still take: the descriptors closed and `errno`. -/
def cleanupLoop (calls : Calls) (contexts : Nat → ThreadContext) :
    Nat → Nat → List Int → Int → List Int × Int
  | 0, _, closed, errno => (closed, errno)
  | iterations + 1, i, closed, errno =>
    let sock := (contexts i).socket
    if 0 < sock then
      cleanupLoop calls contexts iterations (i + 1) (closed ++ [sock]) ((calls.close i).errno errno)
    else cleanupLoop calls contexts iterations (i + 1) closed errno

/-- The descriptors that a run of `main` closes, and the status that it exits with. -/
structure Outcome where
  closed : List Int
  status : Int
deriving DecidableEq

def main (jobs : Nat) (calls : Calls) (contexts : Nat → ThreadContext) : Outcome :=
  let port := 9090
  let (contexts, errno) := setupLoop calls port jobs 0 contexts 0
  let (closed, errno) := cleanupLoop calls contexts jobs 0 [] errno
  ⟨closed, errno⟩

/-! ## What a failure has to undo -/

def Calls.SetsUp (calls : Calls) (j : Nat) : Prop := 0 ≤ (calls.socket j).ret ∧ (calls.connect j).ret = 0

/-- A call of the set-up fails with the code, when the sockets of the first jobs have been opened. -/
inductive FailsAt (calls : Calls) (jobs : Nat) : (opened : Nat) → (code : Int) → Prop where
  | socket {i : Nat} {code : Int} (inside : i < jobs) (before : ∀ j < i, calls.SetsUp j)
      (fails : (calls.socket i).error = some code) : FailsAt calls jobs i code
  | connect {i : Nat} {code : Int} (inside : i < jobs) (before : ∀ j < i, calls.SetsUp j)
      (opens : 0 ≤ (calls.socket i).ret) (fails : (calls.connect i).error = some code) :
      FailsAt calls jobs (i + 1) code

def Calls.descriptors (calls : Calls) (opened : Nat) : List Int :=
  (List.range opened).map fun j => (calls.socket j).ret

/-- The descriptors are closed, each once, no other is, and the status is the code. -/
structure Undoes (outcome : Outcome) (descriptors : List Int) (code : Int) : Prop where
  closed : outcome.closed.Perm descriptors
  status : outcome.status = code

variable {calls : Calls} {contexts : Nat → ThreadContext} {jobs opened : Nat} {code : Int}

theorem FailsAt.le (fails : FailsAt calls jobs opened code) : opened ≤ jobs := by
  cases fails with
  | socket inside _ _ => exact Nat.le_of_lt inside
  | connect inside _ _ _ => exact inside

theorem FailsAt.opens (fails : FailsAt calls jobs opened code) :
    ∀ j < opened, 0 ≤ (calls.socket j).ret := by
  intro j below
  cases fails with
  | socket _ before _ => exact (before j below).1
  | connect _ before opens _ =>
    cases Nat.lt_succ_iff_lt_or_eq.mp below with
    | inl below => exact (before j below).1
    | inr here => exact here ▸ opens

/-! ## The set-up loop -/

def Calls.written (calls : Calls) (port : Int) (contexts : Nat → ThreadContext) (opened : Nat) :
    Nat → ThreadContext :=
  fun j => if j < opened then ⟨j, (calls.socket j).ret, port⟩ else contexts j

theorem written_succ (port : Int) (i : Nat) :
    Function.update (calls.written port contexts i) i ⟨i, (calls.socket i).ret, port⟩ =
      calls.written port contexts (i + 1) := by
  funext j
  by_cases here : j = i
  · simp [here, Calls.written]
  · have below : j < i + 1 ↔ j < i := by omega
    simp only [Function.update_of_ne here, Calls.written, below]

theorem errno_of_nonneg {result : CallResult} (succeeds : 0 ≤ result.ret) (errno : Int) :
    result.errno errno = errno := by
  rw [CallResult.errno, CallResult.error, if_neg (Int.not_lt.mpr succeeds)]
  rfl

theorem error_eq_some {result : CallResult} (fails : result.error = some code) :
    result.ret < 0 ∧ ∀ errno, result.errno errno = code := by
  refine ⟨?_, fun errno => by rw [CallResult.errno, fails]; rfl⟩
  by_contra succeeds
  rw [CallResult.error, if_neg succeeds] at fails
  nomatch fails

theorem setupLoop_passes (port : Int) (i iterations : Nat) (errno : Int)
    (before : ∀ j < i, calls.SetsUp j) :
    setupLoop calls port (i + iterations) 0 contexts errno =
      setupLoop calls port iterations i (calls.written port contexts i) errno := by
  induction i generalizing iterations with
  | zero =>
    rw [Nat.zero_add]
    rfl
  | succ i ih =>
    obtain ⟨opens, connects⟩ := before i (Nat.lt_succ_self i)
    rw [Nat.succ_add_eq_add_succ, ih _ fun j below => before j (by omega)]
    simp only [setupLoop, if_neg (Int.not_lt.mpr opens), errno_of_nonneg opens, connects, ne_eq,
      not_true_eq_false, if_false, errno_of_nonneg (Int.le_of_eq connects.symm), written_succ]

theorem setupLoop_fails (port : Int) (fails : FailsAt calls jobs opened code) :
    setupLoop calls port jobs 0 contexts 0 = (calls.written port contexts opened, code) := by
  cases fails with
  | @socket i _ inside before fails =>
    obtain ⟨negative, errno⟩ := error_eq_some fails
    obtain ⟨iterations, rfl⟩ := Nat.exists_eq_add_of_lt inside
    rw [Nat.add_assoc, setupLoop_passes port opened _ 0 before]
    simp only [setupLoop, if_pos negative, errno]
  | @connect i _ inside before opens fails =>
    obtain ⟨negative, errno⟩ := error_eq_some fails
    obtain ⟨iterations, rfl⟩ := Nat.exists_eq_add_of_lt inside
    rw [Nat.add_assoc, setupLoop_passes port i _ 0 before]
    simp only [setupLoop, if_neg (Int.not_lt.mpr opens), written_succ, ne_eq, Int.ne_of_lt negative,
      not_false_eq_true, if_true, errno]

/-! ## The cleanup loop -/

/-- The indices whose entries the cleanup takes for open sockets. -/
def cleaned (contexts : Nat → ThreadContext) (indices : List Nat) : List Nat :=
  indices.filter fun j => 0 < (contexts j).socket

/-- The sockets of these entries are closed in turn, with `errno` as it was before. -/
def Calls.closing (calls : Calls) (contexts : Nat → ThreadContext) (indices : List Nat) (errno : Int) :
    Outcome :=
  ⟨indices.map fun j => (contexts j).socket,
    (indices.map calls.close).foldl (fun errno close => close.errno errno) errno⟩

theorem cleanupLoop_eq (iterations i : Nat) (closed : List Int) (errno : Int) :
    cleanupLoop calls contexts iterations i closed errno =
      (closed ++ (calls.closing contexts (cleaned contexts (List.range' i iterations)) errno).closed,
        (calls.closing contexts (cleaned contexts (List.range' i iterations)) errno).status) := by
  induction iterations generalizing i closed errno with
  | zero => simp [cleanupLoop, cleaned, Calls.closing]
  | succ iterations ih =>
    rw [cleanupLoop, List.range'_succ]
    by_cases positive : 0 < (contexts i).socket
    · simp [ih, cleaned, Calls.closing, positive]
    · simp [ih, cleaned, Calls.closing, positive]

theorem main_eq (fails : FailsAt calls jobs opened code) :
    main jobs calls contexts = calls.closing (calls.written 9090 contexts opened)
      (cleaned (calls.written 9090 contexts opened) (List.range jobs)) code := by
  simp only [main, setupLoop_fails 9090 fails, cleanupLoop_eq, List.nil_append, List.range_eq_range']

/-- The entries that were written are taken for open, and then those that happen to look so. -/
theorem cleaned_written (port : Int) (le : opened ≤ jobs) (positive : ∀ j < opened, 0 < (calls.socket j).ret) :
    cleaned (calls.written port contexts opened) (List.range jobs) =
      List.range opened ++ cleaned contexts ((List.range (jobs - opened)).map (opened + ·)) := by
  obtain ⟨rest, rfl⟩ := Nat.exists_eq_add_of_le le
  rw [Nat.add_sub_cancel_left, List.range_add, cleaned, cleaned, List.filter_append]
  congr 1
  · rw [List.filter_eq_self]
    intro j mem
    have below := List.mem_range.mp mem
    simpa only [Calls.written, if_pos below, decide_eq_true_eq] using positive j below
  · apply List.filter_congr
    intro j mem
    obtain ⟨k, _, rfl⟩ := List.mem_map.mp mem
    simp only [Calls.written, if_neg (Nat.not_lt.mpr (Nat.le_add_right opened k))]

theorem cleaned_rest_iff : cleaned contexts ((List.range (jobs - opened)).map (opened + ·)) = [] ↔
    ∀ j, opened ≤ j → j < jobs → (contexts j).socket ≤ 0 := by
  simp only [cleaned, List.filter_eq_nil_iff, decide_eq_true_eq, Int.not_lt]
  constructor
  · intro unopened j beyond below
    apply unopened
    exact List.mem_map.mpr ⟨j - opened, List.mem_range.mpr (by omega), by omega⟩
  · intro unwritten j mem
    obtain ⟨k, inside, rfl⟩ := List.mem_map.mp mem
    have below := List.mem_range.mp inside
    exact unwritten (opened + k) (Nat.le_add_right opened k) (by omega)

theorem foldl_errno (results : List CallResult) (errno : Int) :
    results.foldl (fun errno result => result.errno errno) errno =
      (results.filterMap CallResult.error).getLast?.getD errno := by
  induction results generalizing errno with
  | nil => rfl
  | cons result results ih =>
    rw [List.foldl_cons, ih, CallResult.errno]
    cases failed : result.error with
    | none => simp [failed]
    | some code => simp [failed, List.getLast?_cons]

/-! ## Failures -/

/-- The cleanup takes the opened sockets and nothing else for open, when none of them is descriptor 0 and
    the rest of the array has no positive number in it. -/
theorem cleaned_eq (port : Int) (fails : FailsAt calls jobs opened code)
    (nonzero : ∀ j < opened, (calls.socket j).ret ≠ 0)
    (unwritten : ∀ j, opened ≤ j → j < jobs → (contexts j).socket ≤ 0) :
    cleaned (calls.written port contexts opened) (List.range jobs) = List.range opened := by
  have positive : ∀ j < opened, 0 < (calls.socket j).ret := by
    intro j below
    have opens := fails.opens j below
    have different := nonzero j below
    omega
  rw [cleaned_written port fails.le positive, cleaned_rest_iff.mpr unwritten, List.append_nil]

theorem closing_written (port errno : Int) :
    calls.closing (calls.written port contexts opened) (List.range opened) errno =
      ⟨calls.descriptors opened,
        (((List.range opened).map calls.close).filterMap CallResult.error).getLast?.getD errno⟩ := by
  have closed : (List.range opened).map (fun j => (calls.written port contexts opened j).socket) =
      calls.descriptors opened := by
    apply List.map_congr_left
    intro j mem
    rw [Calls.written, if_pos (List.mem_range.mp mem)]
  rw [Calls.closing, closed, foldl_errno]

theorem conditions_of_perm (port : Int) (fails : FailsAt calls jobs opened code)
    (closed : (calls.closing (calls.written port contexts opened)
      (cleaned (calls.written port contexts opened) (List.range jobs)) code).closed.Perm
        (calls.descriptors opened)) :
    (∀ j < opened, (calls.socket j).ret ≠ 0) ∧
      ∀ j, opened ≤ j → j < jobs → (contexts j).socket ≤ 0 := by
  have positive : ∀ j < opened, 0 < (calls.socket j).ret := by
    intro j below
    have mem : (calls.socket j).ret ∈ calls.descriptors opened :=
      List.mem_map_of_mem (List.mem_range.mpr below)
    obtain ⟨k, mem, same⟩ := List.mem_map.mp (closed.mem_iff.mpr mem)
    rw [← same]
    exact of_decide_eq_true (List.mem_filter.mp mem).2
  refine ⟨fun j below => Int.ne_of_gt (positive j below), cleaned_rest_iff.mp ?_⟩
  have length := closed.length_eq
  rw [Calls.closing, List.length_map, cleaned_written port fails.le positive, List.length_append,
    Calls.descriptors, List.length_map] at length
  exact List.eq_nil_of_length_eq_zero (by omega)

/-- **Failed set-up**: the run closes exactly the sockets that it has opened and exits with the code of the
    failed call, exactly when no socket of the run has descriptor 0, the entries of the array that were not
    written have no positive number in them, and the last `close` to fail, if one does, fails with that
    code too. -/
theorem main_undoes_iff (contexts : Nat → ThreadContext) (fails : FailsAt calls jobs opened code) :
    Undoes (main jobs calls contexts) (calls.descriptors opened) code ↔
      (∀ j < opened, (calls.socket j).ret ≠ 0) ∧
      (∀ j, opened ≤ j → j < jobs → (contexts j).socket ≤ 0) ∧
      ∀ last ∈ (((List.range opened).map calls.close).filterMap CallResult.error).getLast?, last = code := by
  have undone (nonzero : ∀ j < opened, (calls.socket j).ret ≠ 0)
      (unwritten : ∀ j, opened ≤ j → j < jobs → (contexts j).socket ≤ 0) :
      main jobs calls contexts = ⟨calls.descriptors opened,
        (((List.range opened).map calls.close).filterMap CallResult.error).getLast?.getD code⟩ := by
    rw [main_eq fails, cleaned_eq 9090 fails nonzero unwritten, closing_written]
  constructor
  · intro undoes
    have closed := undoes.closed
    rw [main_eq fails] at closed
    obtain ⟨nonzero, unwritten⟩ := conditions_of_perm 9090 fails closed
    refine ⟨nonzero, unwritten, fun last mem => ?_⟩
    have same := undoes.status
    rw [undone nonzero unwritten, Option.mem_def.mp mem] at same
    exact same
  · intro conditions
    obtain ⟨nonzero, unwritten, overwritten⟩ := conditions
    rw [undone nonzero unwritten]
    refine ⟨.refl _, ?_⟩
    cases failed : (((List.range opened).map calls.close).filterMap CallResult.error).getLast? with
    | none => rfl
    | some last => exact overwritten last failed

/-! ## A refused connection -/

/-- The second connection is refused; the sockets are numbered from the lowest descriptor on. -/
def refused (lowest : Int) (close : CallResult) : Calls where
  socket j := ⟨lowest + j, 0⟩
  connect j := if j = 1 then ⟨-1, 111⟩ else ⟨0, 0⟩
  close _ := close

theorem refused_failsAt {lowest : Int} (nonneg : 0 ≤ lowest) (close : CallResult) :
    FailsAt (refused lowest close) 3 2 111 := by
  have opens (j : Nat) : 0 ≤ ((refused lowest close).socket j).ret :=
    Int.add_nonneg nonneg (Int.natCast_nonneg j)
  refine .connect (by simp) (fun j below => ⟨opens j, ?_⟩) (opens 1) rfl
  simp [refused, Nat.ne_of_lt below]

theorem main_undoes_sample : Undoes (main 3 (refused 3 ⟨0, 0⟩) fun _ => ⟨0, 0, 0⟩) [3, 4] 111 := by
  apply (main_undoes_iff _ (refused_failsAt (by simp) ⟨0, 0⟩)).mpr
  refine ⟨?_, fun _ _ _ => Int.le_refl 0, ?_⟩
  · decide
  · decide

/-- A number left in the array is closed too, descriptor 0 is not, and a failing `close` takes over the
    status. -/
theorem main_misses :
    (FailsAt (refused 3 ⟨0, 0⟩) 3 2 111 ∧
      ¬ Undoes (main 3 (refused 3 ⟨0, 0⟩) fun _ => ⟨0, 1, 0⟩) ((refused 3 ⟨0, 0⟩).descriptors 2) 111) ∧
    (FailsAt (refused 0 ⟨0, 0⟩) 3 2 111 ∧
      ¬ Undoes (main 3 (refused 0 ⟨0, 0⟩) fun _ => ⟨0, 0, 0⟩) ((refused 0 ⟨0, 0⟩).descriptors 2) 111) ∧
    FailsAt (refused 3 ⟨-1, 5⟩) 3 2 111 ∧
      ¬ Undoes (main 3 (refused 3 ⟨-1, 5⟩) fun _ => ⟨0, 0, 0⟩) ((refused 3 ⟨-1, 5⟩).descriptors 2) 111 := by
  refine ⟨⟨refused_failsAt (by simp) _, fun undoes => ?_⟩, ⟨refused_failsAt (by simp) _, fun undoes => ?_⟩,
    refused_failsAt (by simp) _, fun undoes => ?_⟩
  · -- Closes 3, 4 and 1.
    exact absurd undoes.closed (by decide)
  · -- Closes 1 only.
    exact absurd undoes.closed (by decide)
  · -- Exits with 5.
    exact absurd undoes.status (by decide)

end Bsord.Client
