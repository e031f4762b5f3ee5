import FaustRnbo.Drivers

/-!
# The MIDI Objects

With MIDI, `create_rnbo_patch` adds one `midiin` and one `midiout` right after the DSP unit and
its controls, and `connect_midi` joins them to the DSP unit: `midiin` into its last inlet, and
its outlet third from the right into `midiout`. When an effect unit is added, `connect_midi`
joins it to the same two objects in the same way: the effect unit takes MIDI as well.

Every other line that the script adds after the MIDI objects joins the DSP unit at box `1` and
boxes added after the MIDI objects (`AfterMidi`). So the lines at the MIDI objects are exactly
those of `connect_midi` (`MidiLines`, kept by every step).

## Main results

* `MidiLines.extend`: the step lemma, for the steps that add no line at the MIDI objects.
* `createRnboPatch_midi_lines`: with MIDI, the lines out of `midiin` and into `midiout` are
  exactly those joining them to the DSP unit and, when one is added, to the effect unit, and
  no line goes into `midiin` or out of `midiout`.
-/

namespace FaustRnbo

/-- The lines of a step after the MIDI objects at `m` and `m + 1`, other than those of
`connect_midi`: they join the DSP unit at box `1` and boxes after the MIDI objects. -/
def AfterMidi (m : Nat) (ls : List Line) : Prop :=
  ∀ l ∈ ls, (l.src = 1 ∨ m + 2 ≤ l.src) ∧ (l.dst = 1 ∨ m + 2 ≤ l.dst)

/-- The MIDI objects of a patcher, `midiin` at `m` and `midiout` at `m + 1`, with the lines out
of `midiin` and into `midiout`; no line goes into `midiin` or out of `midiout`. -/
structure MidiLines (m : Nat) (ins outs : List Line) (p : Patcher Box) : Prop where
  midiin : p.boxes[m]? = some (.plain [.sym "midiin"])
  midiout : p.boxes[m + 1]? = some (.plain [.sym "midiout"])
  lines_from : p.linesFrom m = ins
  lines_into : p.linesInto (m + 1) = outs
  into_midiin : p.linesInto m = []
  from_midiout : p.linesFrom (m + 1) = []

theorem connectMidi_lines (p : Patcher Box) (rnbo midiIn midiOut : Nat) :
    (connectMidi p rnbo midiIn midiOut).lines = p.lines ++
      [⟨midiIn, 0, rnbo, (p.ports rnbo).1 - 1⟩, ⟨rnbo, (p.ports rnbo).2 - 3, midiOut, 0⟩] := by
  simp [connectMidi]

/-- Lines added that do not end at `d` leave the lines into `d` as they were. -/
theorem Patcher.linesInto_of_lines {p p' : Patcher Box} {more : List Line}
    (hl : p'.lines = p.lines ++ more) {d : Nat} (h : ∀ l ∈ more, l.dst ≠ d) :
    p'.linesInto d = p.linesInto d := by
  simp only [Patcher.linesInto, hl, List.filter_append, List.append_right_eq_self,
    List.filter_eq_nil_iff, beq_iff_eq]
  exact h

/-- Lines added that do not start at `s` leave the lines out of `s` as they were. -/
theorem Patcher.linesFrom_of_lines {p p' : Patcher Box} {more : List Line}
    (hl : p'.lines = p.lines ++ more) {s : Nat} (h : ∀ l ∈ more, l.src ≠ s) :
    p'.linesFrom s = p.linesFrom s := by
  simp only [Patcher.linesFrom, hl, List.filter_append, List.append_right_eq_self,
    List.filter_eq_nil_iff, beq_iff_eq]
  exact h

theorem ports_of_getElem? {p : Patcher Box} {k : Nat} {r : Rnbo}
    (h : p.boxes[k]? = some (.rnbo r)) : p.ports k = (r.numinlets, r.numoutlets) := by
  simp [Patcher.ports, h, Box.rnboPorts]

section Steps

variable {m : Nat} {ins outs : List Line} {p : Patcher Box}

/-- **The step lemma.** Boxes, and lines after the MIDI objects, keep the lines at them. -/
theorem MidiLines.extend (h : MidiLines m ins outs p) (hm : 1 < m) {p' : Patcher Box}
    (hb : p.boxes <+: p'.boxes) {more : List Line} (hl : p'.lines = p.lines ++ more)
    (hmore : AfterMidi m more) : MidiLines m ins outs p' where
  midiin := getElem?_of_extends hb h.midiin
  midiout := getElem?_of_extends hb h.midiout
  lines_from := h.lines_from ▸ Patcher.linesFrom_of_lines hl fun l hl => by
    have := (hmore l hl).1
    omega
  lines_into := h.lines_into ▸ Patcher.linesInto_of_lines hl fun l hl => by
    have := (hmore l hl).2
    omega
  into_midiin := h.into_midiin ▸ Patcher.linesInto_of_lines hl fun l hl => by
    have := (hmore l hl).2
    omega
  from_midiout := h.from_midiout ▸ Patcher.linesFrom_of_lines hl fun l hl => by
    have := (hmore l hl).1
    omega

/-- `connect_midi` on a unit `k` adds one line out of `midiin` and one into `midiout`. -/
theorem MidiLines.connectMidi (h : MidiLines m ins outs p) {k : Nat} (hk : k ≠ m)
    (hk' : k ≠ m + 1) :
    MidiLines m (ins ++ [⟨m, 0, k, (p.ports k).1 - 1⟩]) (outs ++ [⟨k, (p.ports k).2 - 3, m + 1, 0⟩])
      (FaustRnbo.connectMidi p k m (m + 1)) where
  midiin := h.midiin
  midiout := h.midiout
  lines_from := by
    rw [← h.lines_from]
    simp [Patcher.linesFrom, connectMidi_lines, hk]
  lines_into := by
    rw [← h.lines_into]
    simp [Patcher.linesInto, connectMidi_lines, hk']
  into_midiin := h.into_midiin ▸ Patcher.linesInto_of_lines (connectMidi_lines p k m (m + 1))
    (by simp [hk])
  from_midiout := h.from_midiout ▸ Patcher.linesFrom_of_lines (connectMidi_lines p k m (m + 1))
    (by simp [hk'])

/-- **The MIDI objects.** With MIDI, the MIDI block on a closed patcher adds `midiin` and
`midiout` after its boxes and joins them to the unit `rnbo` only. -/
theorem addMidiObjects_midiLines (hp : p.Closed) {rnbo : Nat} (hr : rnbo < p.boxes.length) :
    MidiLines p.boxes.length [⟨p.boxes.length, 0, rnbo, (p.ports rnbo).1 - 1⟩]
      [⟨rnbo, (p.ports rnbo).2 - 3, p.boxes.length + 1, 0⟩] (addMidiObjects p rnbo true).1 := by
  have h0 : MidiLines p.boxes.length [] []
      ⟨p.boxes ++ [.plain [.sym "midiin"], .plain [.sym "midiout"]], p.lines⟩ :=
    ⟨by simp only [getElem?_append_length]; rfl, by simp only [getElem?_append_length_add]; rfl,
      hp.linesFrom_eq_nil le_rfl, hp.linesInto_eq_nil (Nat.le_succ _),
      hp.linesInto_eq_nil le_rfl, hp.linesFrom_eq_nil (Nat.le_succ _)⟩
  have hports : (⟨p.boxes ++ [.plain [.sym "midiin"], .plain [.sym "midiout"]], p.lines⟩ :
      Patcher Box).ports rnbo = p.ports rnbo := by
    simp [Patcher.ports, List.getElem?_append_left hr]
  have := h0.connectMidi (k := rnbo) (by omega) (by omega)
  rw [hports] at this
  simpa [addMidiObjects, Patcher.addBox] using this

/-- **The effect block with MIDI** adds the effect unit after the MIDI objects and joins it to
them, with no other line at them. -/
theorem MidiLines.addEffect (h : MidiLines m ins outs p) (hm : 1 < m)
    (hp : m + 2 ≤ p.boxes.length) {dspNumOutputs : Nat} {effect : Option EffectUnit}
    {p' : Patcher Box} {eff : Option Nat}
    (ha : addEffect p 1 dspNumOutputs true (some (m, m + 1)) effect = .ok (p', eff)) :
    p.boxes <+: p'.boxes ∧
      (effect = none ∧ eff = none ∧ MidiLines m ins outs p' ∨
        ∃ e r, effect = some e ∧ eff = some p.boxes.length ∧
          p'.boxes[p.boxes.length]? = some (.rnbo r) ∧ r.title = "Effect" ∧
          MidiLines m (ins ++ [⟨m, 0, p.boxes.length, max 1 e.numInputs⟩])
            (outs ++ [⟨p.boxes.length, max 1 e.numOutputs, m + 1, 0⟩]) p') := by
  cases effect with
  | none =>
    simp only [FaustRnbo.addEffect, pure, Except.pure, Except.ok.injEq, Prod.mk.injEq] at ha
    obtain ⟨rfl, rfl⟩ := ha
    exact ⟨List.prefix_refl _, .inl ⟨rfl, rfl, h⟩⟩
  | some e =>
    simp only [FaustRnbo.addEffect, bind, except_bind_eq_ok, Prod.exists, pure, Except.pure,
      Except.ok.injEq, Prod.mk.injEq] at ha
    obtain ⟨p1, k, ha, rfl, rfl⟩ := ha
    obtain ⟨io, s, -, -, rfl, -, hl⟩ := addRnboObject_ok ha
    obtain ⟨-, hp1, io', s', hio', -, hbox⟩ := addRnboObject_box ha
    -- the controls of the effect unit and the adaptation lines keep the lines at the MIDI objects
    have h1 := h.extend hm hp1 hl fun l hl' => by
      have := paramsTopLines_src false p.boxes.length e.itemsInfoList _ l hl'
      have := paramsTopLines_dst false p.boxes.length e.itemsInfoList _ l hl'
      omega
    have h2 : MidiLines m ins outs
        (connectDspEffect p1 1 p.boxes.length dspNumOutputs e.numInputs) :=
      h1.extend hm (by simp) (by rw [connectDspEffect_eq]) fun l hl' => by
        simp only [adaptationLines, List.mem_map] at hl'
        obtain ⟨q, -, rfl⟩ := hl'
        exact ⟨.inl rfl, .inr hp⟩
    have h3 := h2.connectMidi (k := p.boxes.length) (by omega) (by omega)
    rw [ports_of_getElem? (by rwa [connectDspEffect_boxes])] at h3
    simp only [unitPorts, Bool.toNat_true, Prod.mk.injEq] at hio'
    have hb3 : (FaustRnbo.connectMidi (connectDspEffect p1 1 p.boxes.length dspNumOutputs
        e.numInputs) p.boxes.length m (m + 1)).boxes = p1.boxes := by simp
    refine ⟨hb3 ▸ hp1, .inr ⟨e, _, rfl, rfl, hb3 ▸ hbox, rfl, ?_⟩⟩
    simpa [rnboRecord, hio'] using h3

/-- The compile machinery adds no line at the MIDI objects. -/
theorem MidiLines.compile (h : MidiLines m ins outs p) (hm : 1 < m) (hp : m + 2 ≤ p.boxes.length)
    (exportPath cppFilename : String) (compile : Bool) :
    MidiLines m ins outs
      (if compile = true then addCompileTest p 1 exportPath cppFilename else p) := by
  split
  · rw [addCompileTest_eq p (by omega)]
    refine h.extend hm (List.prefix_append _ _) rfl fun l hl => ?_
    simp only [compileTestLines, List.mem_cons, List.mem_singleton, List.not_mem_nil,
      or_false] at hl
    rcases hl with rfl | rfl | rfl | rfl | rfl | rfl | rfl | rfl | rfl | rfl | rfl <;>
      dsimp only <;> omega
  · exact h

/-- The audio drivers add no line at the MIDI objects. -/
theorem MidiLines.drivers (h : MidiLines m ins outs p) (hm : 1 < m) (hp : m + 2 ≤ p.boxes.length)
    {last : Nat} (hl : last = 1 ∨ m + 2 ≤ last) (n dspNumInputs : Nat) :
    MidiLines m ins outs (if 0 < dspNumInputs then
      createAudioInput (createAudioOutput p last n) 1 dspNumInputs
      else createAudioOutput p last n) := by
  have ho := h.extend hm (createAudioOutput_extends p last n) (by rw [createAudioOutput_eq])
    fun l hl' => by
      simp only [List.mem_cons, List.mem_map, List.mem_range] at hl'
      rcases hl' with rfl | ⟨i, -, rfl⟩ <;> simp <;> omega
  split
  · refine ho.extend hm (createAudioInput_extends _ 1 dspNumInputs) (by rw [createAudioInput_eq])
      fun l hl' => ?_
    simp only [List.mem_map, List.mem_range] at hl'
    obtain ⟨i, -, rfl⟩ := hl'
    refine ⟨.inr ?_, .inl rfl⟩
    show m + 2 ≤ (createAudioOutput p last n).boxes.length
    rw [createAudioOutput_length]
    omega
  · exact ho

/-- The steps after the effect block add no line at the MIDI objects. -/
theorem MidiLines.tail (h : MidiLines m ins outs p) (hm : 1 < m) (hp : m + 2 ≤ p.boxes.length)
    {effect : Option EffectUnit} {eff : Option Nat} (he : ∀ k, eff = some k → m + 2 ≤ k)
    (exportPath cppFilename : String) (dspNumInputs dspNumOutputs : Nat) (compile : Bool) :
    MidiLines m ins outs (if 0 < dspNumInputs then
        createAudioInput (addAudioOutput
          (if compile = true then addCompileTest p 1 exportPath cppFilename else p) 1
          dspNumOutputs effect eff) 1 dspNumInputs
      else addAudioOutput (if compile = true then addCompileTest p 1 exportPath cppFilename else p)
        1 dspNumOutputs effect eff) := by
  have hc := h.compile hm hp exportPath cppFilename compile
  have hcl : m + 2 ≤
      (if compile = true then addCompileTest p 1 exportPath cppFilename else p).boxes.length := by
    split
    · simp only [addCompileTest_boxes, List.length_append]
      omega
    · exact hp
  generalize (if compile = true then addCompileTest p 1 exportPath cppFilename else p) = q
    at hc hcl ⊢
  -- the unit the `dac~` is wired to
  obtain ⟨last, n, hl, hout⟩ : ∃ last n, (last = 1 ∨ m + 2 ≤ last) ∧
      ∀ q, addAudioOutput q 1 dspNumOutputs effect eff = createAudioOutput q last n := by
    cases effect <;> cases eff
    case some.some e k => exact ⟨k, _, .inr (he k rfl), fun _ => rfl⟩
    all_goals exact ⟨1, _, .inl rfl, fun _ => rfl⟩
  simp only [hout]
  exact hc.drivers hm hcl hl n dspNumInputs

end Steps

/-- **The MIDI lines of the patch.** In every patch `create_rnbo_patch` builds with MIDI, the
`midiin` and `midiout` objects stand at some boxes `m` and `m + 1`. The lines out of `midiin`
are exactly one into the DSP unit's inlet `max 1 dspNumInputs`, its last, and the lines into
`midiout` exactly one from the DSP unit's outlet `max 1 dspNumOutputs`, third from the right.
When an effect unit is added, at a later box, one more line joins `midiin` to the effect unit's
last inlet, and one more its outlet third from the right to `midiout`. No line goes into
`midiin` or out of `midiout`. -/
theorem createRnboPatch_midi_lines {dspName exportPath cppFilename dspCodeboxCode : String}
    {dspItemsInfoList : List ItemInfo} {dspNumInputs dspNumOutputs : Nat} {nvoices : Int}
    {effect : Option EffectUnit} {compile test : Bool} {P : Patcher Box}
    (h : createRnboPatch dspName exportPath cppFilename dspCodeboxCode dspItemsInfoList
      dspNumInputs dspNumOutputs true nvoices effect compile test = .ok P) :
    ∃ m, 1 < m ∧
      (EffectUnit.added effect = none ∧
          MidiLines m [⟨m, 0, 1, max 1 dspNumInputs⟩] [⟨1, max 1 dspNumOutputs, m + 1, 0⟩] P ∨
        ∃ e k r, EffectUnit.added effect = some e ∧ m + 1 < k ∧ P.boxes[k]? = some (.rnbo r) ∧
          r.title = "Effect" ∧
          MidiLines m [⟨m, 0, 1, max 1 dspNumInputs⟩, ⟨m, 0, k, max 1 e.numInputs⟩]
            [⟨1, max 1 dspNumOutputs, m + 1, 0⟩, ⟨k, max 1 e.numOutputs, m + 1, 0⟩] P) := by
  obtain ⟨p1, k1, h1, p2, eff, h2, rfl⟩ := createRnboPatch_eq_ok.mp h
  obtain ⟨⟨i1, -⟩, hk1eq, -⟩ := (patchInv_init (S := [unitPorts true dspNumInputs
    dspNumOutputs])).addRnboObject (List.mem_singleton_self _) h1
  obtain rfl : k1 = 1 := hk1eq
  -- the DSP unit and the MIDI objects
  obtain ⟨-, -, io, s, hio, -, hb1⟩ := addRnboObject_box h1
  have hm : 1 < p1.boxes.length := (List.getElem?_eq_some_iff.mp hb1).1
  have m1 := addMidiObjects_midiLines i1.closed hm
  simp only [unitPorts, Bool.toNat_true, Prod.mk.injEq] at hio
  simp only [ports_of_getElem? hb1, rnboRecord, hio, Nat.add_sub_cancel] at m1
  have hmb : (addMidiObjects p1 1 true).2 = some (p1.boxes.length, p1.boxes.length + 1) := by
    simp [addMidiObjects, Patcher.addBox]
  have hml : (addMidiObjects p1 1 true).1.boxes.length = p1.boxes.length + 2 := by
    simp [addMidiObjects_boxes]
  rw [hmb] at h2
  -- the effect block, then the steps after it
  obtain ⟨hp2, heff⟩ := m1.addEffect hm (by omega) h2
  have hp2l := hp2.length_le
  have htail := createRnboPatch_tail_extends p2 1 exportPath cppFilename dspNumInputs
    dspNumOutputs (EffectUnit.added effect) eff compile
  refine ⟨p1.boxes.length, hm, ?_⟩
  rcases heff with ⟨hE, rfl, m2⟩ | ⟨e, r, hE, rfl, hr, ht, m2⟩
  · exact .inl ⟨hE, m2.tail hm (by omega) (by simp) exportPath cppFilename dspNumInputs
      dspNumOutputs compile⟩
  · refine .inr ⟨e, _, r, hE, by omega, getElem?_of_extends htail hr, ht, ?_⟩
    exact m2.tail hm (by omega)
      (fun k hk => by cases hk; omega) exportPath cppFilename dspNumInputs dspNumOutputs compile

/-- A MIDI synth with an effect: both units hang on the `midiin` and the `midiout`. -/
theorem createRnboPatch_midi_lines_synth :
    ∃ P, createRnboPatch "synth" "export" "synth.cpp" "out1 = in1;"
        [⟨"gate", "button", 0, 0, 1, 1, []⟩, ⟨"freq", "hslider", 440, 20, 2000, 1, ["ctrl", "1"]⟩]
        0 2 true 4 (some ⟨"out1 = in1;", [], 2, 2⟩) true false = .ok P ∧
      ∃ m, 1 < m ∧
        (EffectUnit.added (some ⟨"out1 = in1;", [], 2, 2⟩) = none ∧
            MidiLines m [⟨m, 0, 1, max 1 0⟩] [⟨1, max 1 2, m + 1, 0⟩] P ∨
          ∃ e k r, EffectUnit.added (some ⟨"out1 = in1;", [], 2, 2⟩) = some e ∧ m + 1 < k ∧
            P.boxes[k]? = some (.rnbo r) ∧ r.title = "Effect" ∧
            MidiLines m [⟨m, 0, 1, max 1 0⟩, ⟨m, 0, k, max 1 e.numInputs⟩]
              [⟨1, max 1 2, m + 1, 0⟩, ⟨k, max 1 e.numOutputs, m + 1, 0⟩] P) :=
  ⟨_, rfl, @createRnboPatch_midi_lines "synth" "export" "synth.cpp" "out1 = in1;"
    [⟨"gate", "button", 0, 0, 1, 1, []⟩, ⟨"freq", "hslider", 440, 20, 2000, 1, ["ctrl", "1"]⟩]
    0 2 4 (some ⟨"out1 = in1;", [], 2, 2⟩) true false _ rfl⟩

end FaustRnbo
