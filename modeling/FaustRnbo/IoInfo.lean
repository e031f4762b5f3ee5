import Mathlib.Data.List.Nodup
import FaustRnbo.Patcher

/-!
# The Inlet and Outlet Information of an `rnbo~` Object

`generate_io_info` computes the port counts of an `rnbo~` object and the `IOInfo` lists that
declare its ports. Its loops are `for i in range(1, n + 1)` loops, and Python leaves the
loop variable `i` bound after a loop that ran, unchanged after one that did not. With MIDI
on, the script builds the MIDI outlet entry from that leftover `i`: it is the last signal
outlet's index when there are signal outputs, the last signal inlet's index when there are
only inputs, and unbound, so that reading it raises `UnboundLocalError`, when there are
neither. `signalLoop` models the loops with the variable they leave behind.

## Main results

* `generateIoInfo_false`, `generateIoInfo_true`: what the function returns, or raises.
* `generateIoInfo_wellFormed_iff`: the declared lists are well formed (distinct indices in
  range, tags matching indices, the MIDI entries at the MIDI ports) **exactly** when MIDI is
  off or the unit has no outputs and two inputs.
-/

namespace FaustRnbo

/-- `{"comment": "", "index": i, "tag": f"{dir}{i}", "type": type}`. -/
def ioEntry (dir : String) (i : Nat) (type : PortType) : IOEntry :=
  ⟨"", i, dir ++ toString i, type⟩

/-- `for i in range(1, n + 1): info.append(ioEntry dir i signal)`, on the list and on the
loop variable `i`, which the loop leaves bound to its last value. -/
def signalLoop (dir : String) (n : Nat) (st : List IOEntry × Option Nat) :
    List IOEntry × Option Nat :=
  (List.range' 1 n).foldl (fun st i => (st.1 ++ [ioEntry dir i .signal], some i)) st

/-- `generate_io_info`: the inlet and outlet counts and the `IOInfo` lists of an `rnbo~`
object with `numInputs` signal inputs and `numOutputs` signal outputs. -/
def generateIoInfo (midi : Bool) (numInputs numOutputs : Nat) :
    Except PyError (Nat × Nat × List IOEntry × List IOEntry) :=
  if midi then
    let inlets := max 1 numInputs + 1
    let (inletInfo, i) := signalLoop "in" numInputs ([], none)
    let inletInfo := inletInfo ++ [ioEntry "in" inlets .midi]
    let outlets := max 1 numOutputs + 3
    let (outletInfo, i) := signalLoop "out" numOutputs ([], i)
    match i with
    | some i => .ok (inlets, outlets, inletInfo, outletInfo ++ [ioEntry "out" i .midi])
    | none => .error (.unboundLocal "i")
  else
    let inlets := max 1 numInputs
    let (inletInfo, i) := signalLoop "in" numInputs ([], none)
    let outlets := max 1 numOutputs + 2
    let (outletInfo, _) := signalLoop "out" numOutputs ([], i)
    .ok (inlets, outlets, inletInfo, outletInfo)

/-- The signal entries `1..n` of a direction. -/
def signalEntries (dir : String) (n : Nat) : List IOEntry :=
  (List.range' 1 n).map fun i => ioEntry dir i .signal

@[simp] theorem ioEntry_index (dir : String) (i : Nat) (t : PortType) :
    (ioEntry dir i t).index = i := rfl

@[simp] theorem ioEntry_tag (dir : String) (i : Nat) (t : PortType) :
    (ioEntry dir i t).tag = dir ++ toString i := rfl

@[simp] theorem ioEntry_type (dir : String) (i : Nat) (t : PortType) :
    (ioEntry dir i t).type = t := rfl

theorem signalLoop_eq (dir : String) (n : Nat) (info : List IOEntry) (i : Option Nat) :
    signalLoop dir n (info, i) = (info ++ signalEntries dir n, if n = 0 then i else some n) := by
  induction n with
  | zero => simp [signalLoop, signalEntries]
  | succ n ih =>
    have hstep : signalLoop dir (n + 1) (info, i) =
        ((signalLoop dir n (info, i)).1 ++ [ioEntry dir (n + 1) .signal], some (n + 1)) := by
      simp [signalLoop, List.range'_concat, List.foldl_append, Nat.add_comm]
    rw [hstep, ih]
    simp [signalEntries, List.range'_concat, Nat.add_comm]

@[simp] theorem generateIoInfo_false (numInputs numOutputs : Nat) :
    generateIoInfo false numInputs numOutputs =
      .ok (max 1 numInputs, max 1 numOutputs + 2, signalEntries "in" numInputs,
        signalEntries "out" numOutputs) := by
  simp [generateIoInfo, signalLoop_eq]

theorem generateIoInfo_true (numInputs numOutputs : Nat) :
    generateIoInfo true numInputs numOutputs =
      if numInputs = 0 ∧ numOutputs = 0 then .error (.unboundLocal "i") else
        .ok (max 1 numInputs + 1, max 1 numOutputs + 3,
          signalEntries "in" numInputs ++ [ioEntry "in" (max 1 numInputs + 1) .midi],
          signalEntries "out" numOutputs ++
            [ioEntry "out" (if numOutputs = 0 then numInputs else numOutputs) .midi]) := by
  simp only [generateIoInfo, signalLoop_eq, if_true, List.nil_append]
  by_cases hi : numInputs = 0 <;> by_cases ho : numOutputs = 0 <;> simp [hi, ho]

/-! ### Well-formedness of the declared ports -/

/-- An `IOInfo` list for `num` ports is well formed: its indices are distinct, each lies in
`1..num` and is tagged `<dir><index>`, and its `midi` entries are exactly one at `midiIndex`,
or none. -/
def InfoListOk (dir : String) (num : Nat) (midiIndex : Option Nat) (info : List IOEntry) :
    Prop :=
  (info.map IOEntry.index).Nodup ∧
    (∀ e ∈ info, 1 ≤ e.index ∧ e.index ≤ num ∧ e.tag = dir ++ toString e.index) ∧
    (info.filter (·.type == .midi)).map IOEntry.index = midiIndex.toList

/-- The well-formedness of a result of `generate_io_info`: both lists are well formed, and
with MIDI the inlet list's `midi` entry is at index `numinlets` and the outlet list's at
`numoutlets - 2`, the `1`-based positions of the ports `connect_midi` wires. -/
def IoInfoWellFormed (midi : Bool) : Nat × Nat × List IOEntry × List IOEntry → Prop
  | (inlets, outlets, inletInfo, outletInfo) =>
    InfoListOk "in" inlets (if midi then some inlets else none) inletInfo ∧
      InfoListOk "out" outlets (if midi then some (outlets - 2) else none) outletInfo

theorem signalEntries_indices (dir : String) (n : Nat) :
    (signalEntries dir n).map IOEntry.index = List.range' 1 n := by
  simp [signalEntries, Function.comp_def]

theorem forall_mem_signalEntries {dir : String} {n : Nat} {P : IOEntry → Prop} :
    (∀ e ∈ signalEntries dir n, P e) ↔ ∀ i, 1 ≤ i → i < 1 + n → P (ioEntry dir i .signal) := by
  simp only [signalEntries, List.forall_mem_map, List.mem_range'_1, and_imp]

@[simp] theorem signalEntries_filter_midi (dir : String) (n : Nat) :
    (signalEntries dir n).filter (·.type == .midi) = [] := by
  simp [signalEntries, List.filter_map, Function.comp_def]

theorem infoListOk_signal {dir : String} {num n : Nat} (h : n ≤ num) :
    InfoListOk dir num none (signalEntries dir n) := by
  refine ⟨signalEntries_indices dir n ▸ List.nodup_range' 1 n, ?_, by simp⟩
  exact forall_mem_signalEntries.mpr fun i h1 h2 => ⟨h1, by simp; omega, rfl⟩

theorem infoListOk_signal_midi {dir : String} {num n k m : Nat} :
    InfoListOk dir num (some m) (signalEntries dir n ++ [ioEntry dir k .midi]) ↔
      n < k ∧ k ≤ num ∧ k = m := by
  simp only [InfoListOk, List.map_append, signalEntries_indices, List.nodup_append,
    List.filter_append, signalEntries_filter_midi, List.forall_mem_append,
    List.forall_mem_singleton, forall_mem_signalEntries]
  simp [List.mem_range'_1]
  constructor
  · rintro ⟨⟨-, hk⟩, ⟨-, hk1, hkn⟩, rfl⟩
    exact ⟨by omega, hkn, rfl⟩
  · rintro ⟨hnk, hkn, rfl⟩
    exact ⟨⟨List.nodup_range' 1 n, fun _ => by omega⟩,
      ⟨fun i h1 h2 => ⟨h1, by omega⟩, by omega, hkn⟩, rfl⟩

/-- **The declared ports are well formed only in corner cases.** Without MIDI both lists
are well formed. With MIDI the inlet list always is, but the outlet list is well formed
exactly when the unit has no outputs and two inputs: the MIDI outlet entry takes the index
the leftover loop variable holds, which is the last signal outlet's (a duplicate, one short
of `numoutlets - 2`) when there are outputs, the number of inputs when there are only
inputs, and nothing, raising, when there are neither. -/
theorem generateIoInfo_wellFormed_iff (midi : Bool) (numInputs numOutputs : Nat) :
    (∃ io, generateIoInfo midi numInputs numOutputs = .ok io ∧ IoInfoWellFormed midi io) ↔
      midi = false ∨ (numOutputs = 0 ∧ numInputs = 2) := by
  cases midi with
  | false =>
    simpa [IoInfoWellFormed] using
      ⟨infoListOk_signal (le_max_right 1 numInputs), infoListOk_signal (by omega)⟩
  | true =>
    rw [generateIoInfo_true]
    by_cases h0 : numInputs = 0 ∧ numOutputs = 0
    · simp [h0]
    · simp only [if_neg h0, Except.ok.injEq, exists_eq_left', IoInfoWellFormed, if_true,
        infoListOk_signal_midi]
      by_cases ho : numOutputs = 0
      · simp [ho]
        omega
      · simp [ho]

end FaustRnbo
