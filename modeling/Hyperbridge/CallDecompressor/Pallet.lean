import Hyperbridge.Lib.Bytes
import Hyperbridge.Lib.Exec

/-!
# Compressed calls

`pallet-call-decompressor` takes calls in a compressed form, with the size they have when decompressed. A buffer of that
size is allocated before anything is read into it. The call checks the size against a bound first; the check of the
transaction pool does the same steps without it.
-/

namespace Hyperbridge.CallDecompressor

open Lib Exec

inductive RuntimeCall (Messages Proof : Type) where
  | handleUnsigned (messages : Messages)
  | otherIsmp
  | accumulateFees (withdrawalProof : Proof)
  | otherRelayer
  | other

inductive Error where
  | callNotSupported
  | errorExecutingCall
  | decompressionFailed
  | errorDecodingCall
  | callSizeOutOfBound
  | relayer (text : String)
  deriving DecidableEq

inductive Invalid where
  | call
  deriving DecidableEq

structure Runtime (State Messages Proof : Type) where
  maxCallSize : UInt32
  decoder : Bytes → Option (Nat → Bytes)
  decode : Bytes → Option (RuntimeCall Messages Proof)
  handleMessages : Messages → State → Option State
  accumulateFees : Proof → State → Except String State
  validateIsmp : Messages → State → Option (List Bytes)
  validateRelayer : Proof → State → Option (List Bytes)

/-- The state and the sizes of the buffers allocated so far. -/
structure Machine (State : Type) where
  state : State
  allocated : List Nat

variable {State Messages Proof : Type} (R : Runtime State Messages Proof)

/-- `MaxCallSize * ONE_MB`, which wraps. -/
def bound : UInt32 := R.maxCallSize * 1000000

def decompress (compressed : Bytes) (encodedCallSize : UInt32) : Exec (Machine State) Error Bytes := do
  let read ← ofExcept (okOr (R.decoder compressed) .decompressionFailed)
  modify fun m => { m with allocated := m.allocated ++ [encodedCallSize.toNat] }
  pure (read encodedCallSize.toNat)

def execute (f : State → Except Error State) : Exec (Machine State) Error Unit := do
  let state ← query fun m => f m.state
  modify fun m => { m with state := state }

def decodeAndExecute (callBytes : Bytes) : Exec (Machine State) Error Unit := do
  match ← ofExcept (okOr (R.decode callBytes) .errorDecodingCall) with
  | .handleUnsigned messages => execute fun s => okOr (R.handleMessages messages s) .errorExecutingCall
  | .accumulateFees proof => execute fun s => (R.accumulateFees proof s).mapError .relayer
  | _ => throw .callNotSupported

/-- `decompress_call`. -/
def decompressCall (compressed : Bytes) (encodedCallSize : UInt32) : Exec (Machine State) Error Unit := do
  throwIf (bound R ≤ encodedCallSize) .callSizeOutOfBound
  let callBytes ← decompress R compressed encodedCallSize
  decodeAndExecute R callBytes

/-- What the pallet of the call says to it. -/
def validateCall (s : State) : RuntimeCall Messages Proof → Option (List Bytes)
  | .handleUnsigned messages => R.validateIsmp messages s
  | .accumulateFees proof => R.validateRelayer proof s
  | _ => none

/-- `validate_unsigned`. -/
def validateUnsigned (compressed : Bytes) (encodedCallSize : UInt32) : Exec (Machine State) Invalid (List Bytes) := do
  let callBytes ← mapErr (fun _ => .call) (decompress R compressed encodedCallSize)
  let call ← ofExcept (okOr (R.decode callBytes) .call)
  query fun m => okOr (validateCall R m.state call) .call

structure BoundedAndAgreed (s : State) (compressed : Bytes) (encodedCallSize : UInt32) : Prop where
  call : ∀ n ∈ ((decompressCall R compressed encodedCallSize).run ⟨s, []⟩).2.allocated,
    n < R.maxCallSize.toNat * 1000000
  pool : ∀ n ∈ ((validateUnsigned R compressed encodedCallSize).run ⟨s, []⟩).2.allocated,
    n < R.maxCallSize.toNat * 1000000
  agreed : ∀ provides m, (validateUnsigned R compressed encodedCallSize).run ⟨s, []⟩ = (.ok provides, m) →
    ∀ e ∈ [Error.callSizeOutOfBound, .errorDecodingCall, .callNotSupported],
      ((decompressCall R compressed encodedCallSize).run ⟨s, []⟩).1 ≠ .err e

variable {R} {s : State} {compressed : Bytes} {encodedCallSize : UInt32}

theorem decompress_run (m : Machine State) :
    (decompress R compressed encodedCallSize).run m = match R.decoder compressed with
      | none => (.err .decompressionFailed, m)
      | some read => (.ok (read encodedCallSize.toNat),
          { m with allocated := m.allocated ++ [encodedCallSize.toNat] }) := by
  unfold decompress
  cases R.decoder compressed <;> rfl

theorem decompressCall_run (hbound : encodedCallSize < bound R) (m : Machine State) :
    (decompressCall R compressed encodedCallSize).run m = match R.decoder compressed with
      | none => (.err .decompressionFailed, m)
      | some read => (decodeAndExecute R (read encodedCallSize.toNat)).run
          { m with allocated := m.allocated ++ [encodedCallSize.toNat] } := by
  have hcheck : decide (bound R ≤ encodedCallSize) = false := decide_eq_false (UInt32.not_le.mpr hbound)
  rw [decompressCall, hcheck]
  show ((decompress R compressed encodedCallSize >>= decodeAndExecute R).run m) = _
  rw [bind_run, decompress_run]
  cases R.decoder compressed <;> rfl

theorem allocated_decodeAndExecute (callBytes : Bytes) (m : Machine State) :
    ((decodeAndExecute R callBytes).run m).2.allocated = m.allocated := by
  have hexecute (f : State → Except Error State) : ((execute f).run m).2.allocated = m.allocated := by
    rw [execute, bind_run, query_run]
    cases f m.state <;> rfl
  rw [decodeAndExecute]
  cases R.decode callBytes with
  | none => rfl
  | some call => cases call with
    | handleUnsigned messages => exact hexecute fun s => okOr (R.handleMessages messages s) .errorExecutingCall
    | accumulateFees proof => exact hexecute fun s => (R.accumulateFees proof s).mapError .relayer
    | _ => rfl

theorem mem_allocated_decompressCall {n : Nat}
    (h : n ∈ ((decompressCall R compressed encodedCallSize).run ⟨s, []⟩).2.allocated) :
    n = encodedCallSize.toNat ∧ (R.decoder compressed).isSome := by
  by_cases hbound : encodedCallSize < bound R
  · rw [decompressCall_run hbound] at h
    cases hdecoder : R.decoder compressed with
    | none => simp [hdecoder] at h
    | some read =>
      rw [hdecoder] at h
      dsimp only at h
      rw [allocated_decodeAndExecute] at h
      exact ⟨List.mem_singleton.mp h, rfl⟩
  · rw [decompressCall, decide_eq_true (UInt32.not_lt.mp hbound)] at h
    cases h

theorem allocated_validateUnsigned :
    ((validateUnsigned R compressed encodedCallSize).run ⟨s, []⟩).2.allocated =
      if (R.decoder compressed).isSome then [encodedCallSize.toNat] else [] := by
  rw [validateUnsigned, bind_run, mapErr_run, decompress_run]
  cases R.decoder compressed with
  | none => rfl
  | some read =>
    dsimp only
    cases R.decode (read encodedCallSize.toNat) with
    | none => rfl
    | some call =>
      show ((query fun m : Machine State => okOr (validateCall R m.state call) Invalid.call).run _).2.allocated = _
      rw [query_run]
      cases okOr (validateCall R s call) Invalid.call <;> rfl

def Passes (R : Runtime State Messages Proof) (s : State) (compressed : Bytes) (encodedCallSize : UInt32) : Prop :=
  ∃ read call, R.decoder compressed = some read ∧ R.decode (read encodedCallSize.toNat) = some call ∧
    (validateCall R s call).isSome

theorem validateUnsigned_ok_iff :
    (∃ provides m, (validateUnsigned R compressed encodedCallSize).run ⟨s, []⟩ = (.ok provides, m)) ↔
      Passes R s compressed encodedCallSize := by
  constructor
  · rintro ⟨provides, m, h⟩
    obtain ⟨callBytes, m, hdecompress, h⟩ := bind_ok.mp h
    rw [mapErr_ok, decompress_run] at hdecompress
    obtain ⟨call, hcall, h⟩ := ofExcept_bind_ok.mp h
    obtain ⟨hvalid, -⟩ := query_ok.mp h
    cases hdecoder : R.decoder compressed with
    | none =>
      rw [hdecoder] at hdecompress
      cases hdecompress
    | some read =>
      rw [hdecoder] at hdecompress
      cases hdecompress
      exact ⟨read, call, hdecoder, okOr_eq_ok.mp hcall, Option.isSome_of_eq_some (okOr_eq_ok.mp hvalid)⟩
  · rintro ⟨read, call, hdecoder, hcall, hvalid⟩
    obtain ⟨provides, hprovides⟩ := Option.isSome_iff_exists.mp hvalid
    let m : Machine State := ⟨s, [encodedCallSize.toNat]⟩
    refine ⟨provides, m, bind_ok.mpr ⟨read encodedCallSize.toNat, m, ?_, ?_⟩⟩
    · rw [mapErr_ok, decompress_run, hdecoder]
      rfl
    · exact ofExcept_bind_ok.mpr ⟨call, okOr_eq_ok.mpr hcall, query_ok.mpr ⟨okOr_eq_ok.mpr hprovides, rfl⟩⟩

theorem decodeAndExecute_of_validated {callBytes : Bytes} {call : RuntimeCall Messages Proof}
    (hcall : R.decode callBytes = some call) (hvalid : (validateCall R s call).isSome) {m : Machine State} {e : Error}
    (h : ((decodeAndExecute R callBytes).run m).1 = .err e) : e = .errorExecutingCall ∨ ∃ text, e = .relayer text := by
  rw [decodeAndExecute, hcall] at h
  cases call with
  | handleUnsigned messages =>
    change ((execute fun s => okOr (R.handleMessages messages s) .errorExecutingCall).run m).1 = _ at h
    rw [execute, bind_run, query_run] at h
    cases hrun : R.handleMessages messages m.state with
    | none =>
      simp only [hrun, okOr, Outcome.err.injEq] at h
      exact .inl h.symm
    | some state => simp [hrun, okOr] at h
  | accumulateFees proof =>
    change ((execute fun s => (R.accumulateFees proof s).mapError .relayer).run m).1 = _ at h
    rw [execute, bind_run, query_run] at h
    cases hrun : R.accumulateFees proof m.state with
    | error text =>
      simp only [hrun, Except.mapError, Outcome.err.injEq] at h
      exact .inr ⟨text, h.symm⟩
    | ok state => simp [hrun, Except.mapError] at h
  | _ => cases hvalid

/-- For the pool the size is not checked, and for the call against a bound that wraps: the memory is bounded if and only
if the decoder does not open or the size is small, and the paths agree if and only if the size of a call that its pallet
lets through is below the bound as it wraps. -/
theorem boundedAndAgreed_iff (R : Runtime State Messages Proof) (s : State) (compressed : Bytes)
    (encodedCallSize : UInt32) :
    BoundedAndAgreed R s compressed encodedCallSize ↔
      ((R.decoder compressed).isSome → encodedCallSize.toNat < R.maxCallSize.toNat * 1000000) ∧
      (Passes R s compressed encodedCallSize → encodedCallSize.toNat < R.maxCallSize.toNat * 1000000 % 2 ^ 32) := by
  have hbound : encodedCallSize < bound R ↔ encodedCallSize.toNat < R.maxCallSize.toNat * 1000000 % 2 ^ 32 := by
    rw [UInt32.lt_iff_toNat_lt, bound, UInt32.toNat_mul]
    rfl
  rw [← hbound, ← validateUnsigned_ok_iff]
  constructor
  · intro h
    refine ⟨fun hdecoder => h.pool _ (by simp [allocated_validateUnsigned, hdecoder]), ?_⟩
    rintro ⟨provides, m, hok⟩
    by_contra hlarge
    refine h.agreed provides m hok _ (List.mem_cons_self ..) ?_
    rw [decompressCall, decide_eq_true (UInt32.not_lt.mp hlarge)]
    rfl
  · rintro ⟨hsmall, hcheck⟩
    refine ⟨fun n hn => ?_, fun n hn => ?_, fun provides m hok e he herr => ?_⟩
    · obtain ⟨rfl, hdecoder⟩ := mem_allocated_decompressCall hn
      exact hsmall hdecoder
    · rw [allocated_validateUnsigned] at hn
      split at hn
      · rw [List.mem_singleton.mp hn]
        exact hsmall ‹_›
      · cases hn
    · obtain ⟨read, call, hdecoder, hcall, hvalid⟩ := validateUnsigned_ok_iff.mp ⟨provides, m, hok⟩
      rw [decompressCall_run (hcheck ⟨provides, m, hok⟩), hdecoder] at herr
      obtain rfl | ⟨text, rfl⟩ := decodeAndExecute_of_validated hcall hvalid herr <;> simp at he

/-- A zstd frame with one raw block, of a zero byte. -/
def zeroFrame : Bytes := [0x28, 0xb5, 0x2f, 0xfd, 0x20, 0x01, 0x09, 0x00, 0x00, 0x00]

def sampleRuntime : Runtime Unit Unit Unit where
  maxCallSize := 1
  decoder := fun compressed => if compressed = zeroFrame then some fun size => List.replicate size 0 else none
  decode := fun _ => some (.handleUnsigned ())
  handleMessages := fun _ s => some s
  accumulateFees := fun _ s => .ok s
  validateIsmp := fun _ _ => some []
  validateRelayer := fun _ _ => none

/-- The pool allocates all four gigabytes for a transaction of one byte and accepts it; the call refuses it for its
size. -/
theorem pool_unbounded :
    (validateUnsigned sampleRuntime zeroFrame 4294967295).run ⟨(), []⟩ = (.ok [], ⟨(), [4294967295]⟩) ∧
      (decompressCall sampleRuntime zeroFrame 4294967295).run ⟨(), []⟩ = (.err .callSizeOutOfBound, ⟨(), []⟩) ∧
      ¬ BoundedAndAgreed sampleRuntime () zeroFrame 4294967295 :=
  ⟨rfl, rfl, fun h => h.agreed [] ⟨(), [4294967295]⟩ rfl .callSizeOutOfBound (by decide) rfl⟩

end Hyperbridge.CallDecompressor
