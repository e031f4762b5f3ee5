import FaustRnbo.Patch

/-!
# The Port Discipline of the Patch

The port discipline of the top-level patch is stated per line and read off the two ends of
the line (`LineOk`): at an `rnbo~` end the port must be one the box declares, and the one the
box at the other end calls for: a signal port for audio (`adc~`, `dac~`, another unit), the last
inlet for `midiin` and nothing else there, the outlet third from the right for `midiout` and
nothing else there, the rightmost outlet for the export dump and nothing else there, inlet `0`
for `attrui` controls and messages.

A line is checked against the class and the declared ports of its ends (`Box.view`), which the
later steps of the script never change, so the discipline of a line is established once, when
the line is added, and holds in every later patcher. The invariant `PatchInv` also records the
lines that join two units: only `connect_dsp_effect` adds such lines, and every other line has
an end at a box that is not an `rnbo~` object.

## Main results

* `createRnboPatch_inv`: the run lemma, the invariant of every patch `create_rnbo_patch` builds.
* `createRnboPatch_ports`: every line of such a patch keeps the port discipline, and every
  `rnbo~` box in it declares the ports of the DSP unit or of the effect unit.
* `createRnboPatch_unit_lines`: the lines between two units are the lines of the adaptation
  table of the specification, from the DSP unit to the effect unit.
-/

namespace FaustRnbo

/-! ### The port discipline -/

/-- The ports a unit declares: its signal ports, and with MIDI the MIDI inlet and outlet, and
the two message outlets (`generate_io_info`). -/
def unitPorts (midi : Bool) (numInputs numOutputs : Nat) : Nat × Nat :=
  (max 1 numInputs + midi.toNat, max 1 numOutputs + 2 + midi.toNat)

/-- The inlet of an `rnbo~` box with `numinlets` inlets that a line from a box of class `src`
may use: a declared inlet; the last one exactly for `midiin`; a signal inlet for audio; inlet
`0` for a control or a message. -/
def InletOk (midi : Bool) (numinlets : Nat) (src : String) (inlet : Nat) : Prop :=
  inlet < numinlets ∧ (src = "midiin" ↔ midi = true ∧ inlet = numinlets - 1) ∧
    (src = "adc~" ∨ src = "rnbo~" → inlet + midi.toNat < numinlets) ∧
    (src = "attrui" ∨ src = "message" → inlet = 0)

/-- The outlet of an `rnbo~` box with `numoutlets` outlets that a line to a box of class `dst`
may use: a declared outlet; the one third from the right exactly for `midiout`; a signal outlet
for audio; the rightmost exactly for the export dump (`route targetconfig`). -/
def OutletOk (midi : Bool) (numoutlets : Nat) (dst : String) (outlet : Nat) : Prop :=
  outlet < numoutlets ∧ (dst = "midiout" ↔ midi = true ∧ outlet = numoutlets - 3) ∧
    (dst = "dac~" ∨ dst = "rnbo~" → outlet + 2 + midi.toNat < numoutlets) ∧
    (dst = "route" ↔ outlet = numoutlets - 1)

/-- **The port discipline of a line**, over the views of the boxes: both ends exist, and at an
`rnbo~` end the port obeys `InletOk` or `OutletOk` for the class at the other end. -/
def LineOk (midi : Bool) (views : List PortView) (l : Line) : Prop :=
  ∃ s d, views[l.src]? = some s ∧ views[l.dst]? = some d ∧
    (∀ i o, d.2 = some (i, o) → InletOk midi i s.1 l.inlet) ∧
    (∀ i o, s.2 = some (i, o) → OutletOk midi o d.1 l.outlet)

theorem LineOk.lt {midi : Bool} {views : List PortView} {l : Line} (h : LineOk midi views l) :
    l.src < views.length ∧ l.dst < views.length := by
  obtain ⟨s, d, hs, hd, -⟩ := h
  exact ⟨(List.getElem?_eq_some_iff.mp hs).1, (List.getElem?_eq_some_iff.mp hd).1⟩

theorem lineOk_append {midi : Bool} {views : List PortView} {l : Line} (more : List PortView)
    (h : LineOk midi views l) : LineOk midi (views ++ more) l := by
  obtain ⟨s, d, hs, hd, h⟩ := h
  exact ⟨s, d, getElem?_append_of_eq_some hs, getElem?_append_of_eq_some hd, h⟩

/-! ### The lines between units -/

/-- Box `j` is a unit (an `rnbo~` box), by the views of the boxes. -/
def isUnitAt (views : List PortView) (j : Nat) : Bool :=
  match views[j]? with
  | some (_, some _) => true
  | _ => false

/-- The lines that join two units. -/
def unitLines (views : List PortView) (ls : List Line) : List Line :=
  ls.filter fun l => isUnitAt views l.src && isUnitAt views l.dst

theorem isUnitAt_append {views : List PortView} {j : Nat} (hj : j < views.length)
    (more : List PortView) : isUnitAt (views ++ more) j = isUnitAt views j := by
  simp only [isUnitAt, List.getElem?_append_left hj]

theorem isUnitAt_block {vs more : List PortView} (hm : ∀ v ∈ more, v.2 = none) {j : Nat}
    (hj : vs.length ≤ j) : isUnitAt (vs ++ more) j = false := by
  unfold isUnitAt
  rw [List.getElem?_append_right hj]
  rcases h : more[j - vs.length]? with _ | ⟨c, _ | q⟩
  · rfl
  · rfl
  · exact absurd (hm _ (List.getElem?_mem h)) (by simp)

/-- Lines with an end in a block of boxes that are not units join no two units. -/
theorem unitLines_block {vs more : List PortView} (hm : ∀ v ∈ more, v.2 = none)
    {ls : List Line} (hl : ∀ l ∈ ls, vs.length ≤ l.src ∨ vs.length ≤ l.dst) :
    unitLines (vs ++ more) ls = [] := by
  refine List.filter_eq_nil_iff.mpr fun l hl' => ?_
  rcases hl l hl' with h | h <;> simp [isUnitAt_block hm h]

/-- A line from or into a box that is not a unit joins no two units. -/
theorem append_unitLines_singleton {U : List Line} {views : List PortView} {l : Line}
    {c : String} (h : views[l.src]? = some (c, none) ∨ views[l.dst]? = some (c, none)) :
    U ++ unitLines views [l] = U := by
  rcases h with h | h <;> simp [unitLines, isUnitAt, h]

/-- The lines of a patcher that join two units stay so when boxes are appended. -/
theorem unitLines_append_views {midi : Bool} {views : List PortView} {ls : List Line}
    (h : ∀ l ∈ ls, LineOk midi views l) (more : List PortView) :
    unitLines (views ++ more) ls = unitLines views ls :=
  List.filter_congr fun l hl => by
    rw [isUnitAt_append (h l hl).lt.1, isUnitAt_append (h l hl).lt.2]

/-! ### The invariant -/

/-- The invariant of the top-level patcher: every line keeps the port discipline, every
`rnbo~` box declares ports from `S`, and the lines between two units are `U`. -/
structure PatchInv (midi : Bool) (S : List (Nat × Nat)) (U : List Line) (p : Patcher Box) :
    Prop where
  lines_ok : ∀ l ∈ p.lines, LineOk midi (p.boxes.map Box.view) l
  ports_mem : ∀ v ∈ p.boxes.map Box.view, ∀ q, v.2 = some q → q ∈ S
  unit_lines : unitLines (p.boxes.map Box.view) p.lines = U

/-! ### The ports each kind of line uses at a unit

The inlets and outlets of a unit with `numInputs` inputs and `numOutputs` outputs
(`unitPorts`). -/

section Rules

variable {midi : Bool} {numInputs numOutputs : Nat}

theorem inletOk_control {src : String} (hsrc : src = "attrui" ∨ src = "message") :
    InletOk midi (max 1 numInputs + midi.toNat) src 0 := by
  rcases hsrc with rfl | rfl <;> cases midi <;> simp [InletOk] <;> omega

theorem inletOk_midi :
    InletOk true (max 1 numInputs + 1) "midiin" (max 1 numInputs + 1 - 1) := by
  simp [InletOk]

theorem inletOk_audio {src : String} {j : Nat} (hj : j < max 1 numInputs)
    (hsrc : src = "adc~" ∨ src = "rnbo~") : InletOk midi (max 1 numInputs + midi.toNat) src j := by
  rcases hsrc with rfl | rfl <;> cases midi <;> simp [InletOk] <;> omega

theorem outletOk_midi :
    OutletOk true (max 1 numOutputs + 2 + 1) "midiout" (max 1 numOutputs + 2 + 1 - 3) := by
  simp [OutletOk]
  omega

theorem outletOk_dump :
    OutletOk midi (max 1 numOutputs + 2 + midi.toNat) "route"
      (max 1 numOutputs + 2 + midi.toNat - 1) := by
  cases midi <;> simp [OutletOk]

theorem outletOk_audio {dst : String} {j : Nat} (hj : j < max 1 numOutputs)
    (hdst : dst = "dac~" ∨ dst = "rnbo~") :
    OutletOk midi (max 1 numOutputs + 2 + midi.toNat) dst j := by
  rcases hdst with rfl | rfl <;> cases midi <;> simp [OutletOk] <;> omega

end Rules

/-! ### Lines by the kinds of their ends -/

section Lines

variable {midi : Bool} {views : List PortView} {l : Line}

theorem lineOk_plain (s d : String) (hs : views[l.src]? = some (s, none))
    (hd : views[l.dst]? = some (d, none)) : LineOk midi views l :=
  ⟨_, _, hs, hd, by simp, by simp⟩

theorem lineOk_into {s : String} {i o : Nat} (hs : views[l.src]? = some (s, none))
    (hd : views[l.dst]? = some ("rnbo~", some (i, o))) (h : InletOk midi i s l.inlet) :
    LineOk midi views l :=
  ⟨_, _, hs, hd, by simpa using h, by simp⟩

theorem lineOk_outOf {d : String} {i o : Nat} (hs : views[l.src]? = some ("rnbo~", some (i, o)))
    (hd : views[l.dst]? = some (d, none)) (h : OutletOk midi o d l.outlet) :
    LineOk midi views l :=
  ⟨_, _, hs, hd, by simp, by simpa using h⟩

theorem lineOk_between {i o i' o' : Nat} (hs : views[l.src]? = some ("rnbo~", some (i, o)))
    (hd : views[l.dst]? = some ("rnbo~", some (i', o'))) (hin : InletOk midi i' "rnbo~" l.inlet)
    (hout : OutletOk midi o "rnbo~" l.outlet) : LineOk midi views l :=
  ⟨_, _, hs, hd, by simpa using hin, by simpa using hout⟩

end Lines

/-! ### The invariant under the steps of the script -/

/-- `p'` extends `p`: the boxes of `p` keep their views, and more may follow. -/
def ViewsExtend (p p' : Patcher Box) : Prop :=
  ∃ more, p'.boxes.map Box.view = p.boxes.map Box.view ++ more

theorem ViewsExtend.trans {p p' p'' : Patcher Box} (h : ViewsExtend p p')
    (h' : ViewsExtend p' p'') : ViewsExtend p p'' := by
  obtain ⟨m, hm⟩ := h
  obtain ⟨m', hm'⟩ := h'
  exact ⟨m ++ m', by rw [hm', hm, List.append_assoc]⟩

theorem ViewsExtend.view {p p' : Patcher Box} (h : ViewsExtend p p') {k : Nat} {v : PortView}
    (hk : (p.boxes.map Box.view)[k]? = some v) : (p'.boxes.map Box.view)[k]? = some v := by
  obtain ⟨m, hm⟩ := h
  rw [hm]
  exact getElem?_append_of_eq_some hk

theorem ports_eq {p : Patcher Box} {k : Nat} {c : String} {q : Nat × Nat}
    (h : (p.boxes.map Box.view)[k]? = some (c, some q)) : p.ports k = q := by
  rw [List.getElem?_map] at h
  cases hb : p.boxes[k]? with
  | none => simp [hb] at h
  | some b => simp_all [Patcher.ports, Box.view]

section Steps

variable {midi : Bool} {S : List (Nat × Nat)} {U : List Line}

/-- **The step lemma.** A step that appends boxes whose ports are in `S`, and lines that keep
the discipline over the views after it, keeps the invariant, with the new lines between two
units after the old ones. -/
theorem PatchInv.extend {p p' : Patcher Box} (h : PatchInv midi S U p) {more : List PortView}
    {ls : List Line} {U' : List Line} (hv : p'.boxes.map Box.view = p.boxes.map Box.view ++ more)
    (hl : p'.lines = p.lines ++ ls) (hmore : ∀ v ∈ more, ∀ q, v.2 = some q → q ∈ S)
    (hls : ∀ l ∈ ls, LineOk midi (p.boxes.map Box.view ++ more) l)
    (hu : U ++ unitLines (p.boxes.map Box.view ++ more) ls = U') :
    PatchInv midi S U' p' ∧ ViewsExtend p p' := by
  refine ⟨⟨fun l hl' => ?_, fun v hv' q hq => ?_, ?_⟩, ⟨more, hv⟩⟩
  · rw [hv]
    rw [hl, List.mem_append] at hl'
    rcases hl' with hl' | hl'
    · exact lineOk_append _ (h.lines_ok l hl')
    · exact hls l hl'
  · rw [hv, List.mem_append] at hv'
    rcases hv' with hv' | hv'
    · exact h.ports_mem v hv' q hq
    · exact hmore v hv' q hq
  · rw [hv, hl, ← hu, ← h.unit_lines, ← unitLines_append_views h.lines_ok more]
    exact List.filter_append _ _

theorem PatchInv.addLine {p : Patcher Box} (h : PatchInv midi S U p) {src dst inlet outlet : Nat}
    (hl : LineOk midi (p.boxes.map Box.view) ⟨src, outlet, dst, inlet⟩) {U' : List Line}
    (hu : U ++ unitLines (p.boxes.map Box.view) [⟨src, outlet, dst, inlet⟩] = U') :
    PatchInv midi S U' (p.addLine src dst inlet outlet) ∧
      ViewsExtend p (p.addLine src dst inlet outlet) :=
  h.extend (List.append_nil (p.boxes.map Box.view)).symm rfl (by simp) (by simpa using hl)
    (by rw [List.append_nil]; exact hu)

/-- A step taken under a condition keeps the invariant when the step does. -/
theorem PatchInv.ite {p : Patcher Box} (h : PatchInv midi S U p) (c : Prop) [Decidable c]
    {f : Patcher Box → Patcher Box} (hf : c → PatchInv midi S U (f p) ∧ ViewsExtend p (f p)) :
    PatchInv midi S U (if c then f p else p) ∧ ViewsExtend p (if c then f p else p) := by
  split
  · exact hf ‹_›
  · exact ⟨h, [], by simp⟩

end Steps

/-! ### The parameter controls -/

theorem paramTopBoxes_views (test : Bool) (items : List ItemInfo) :
    ∀ v ∈ (items.map (paramTopBoxes test)).flatten.map Box.view, v.2 = none := by
  simp only [List.mem_map, List.mem_flatten]
  rintro v ⟨b, ⟨_, ⟨item, -, rfl⟩, hb⟩, rfl⟩
  exact paramTopBoxes_rnboPorts test item b hb

theorem paramTopLines_ok {midi : Bool} (test : Bool) {k numInputs numOutputs : Nat}
    (item : ItemInfo) {pre : List PortView}
    (hk : pre[k]? = some ("rnbo~", some (unitPorts midi numInputs numOutputs))) :
    ∀ l ∈ paramTopLines item k pre.length,
      LineOk midi (pre ++ (paramTopBoxes test item).map Box.view) l := by
  unfold paramTopLines paramTopBoxes
  split
  · simp only [List.mem_cons, List.mem_singleton, List.not_mem_nil, or_false, List.map_append,
      List.map_cons, List.map_nil, Box.plain, view_textbox, attruiBox, view_attrui, if_pos ‹_›,
      List.singleton_append]
    rintro l (rfl | rfl)
    · exact lineOk_plain "toggle" "attrui" (by simp only [getElem?_append_length]; rfl)
        (by simp only [getElem?_append_length_add]; rfl)
    · exact lineOk_into (by simp only [getElem?_append_length_add]; rfl)
        (getElem?_append_of_eq_some hk) (inletOk_control (Or.inl rfl))
  · simp only [List.mem_singleton, List.map_append, List.map_cons, List.map_nil, attruiBox,
      view_attrui, if_neg ‹_›, List.nil_append]
    rintro l rfl
    exact lineOk_into (by simp only [getElem?_append_length]; rfl)
      (getElem?_append_of_eq_some hk) (inletOk_control (Or.inl rfl))

theorem paramsTopLines_ok {midi : Bool} (test : Bool) {k numInputs numOutputs : Nat} :
    ∀ (items : List ItemInfo) (pre : List PortView),
      pre[k]? = some ("rnbo~", some (unitPorts midi numInputs numOutputs)) →
      ∀ l ∈ paramsTopLines test k items pre.length,
        LineOk midi (pre ++ (items.map (paramTopBoxes test)).flatten.map Box.view) l
  | [], _, _ => by simp [paramsTopLines]
  | item :: items, pre, hk => by
    intro l hl
    simp only [paramsTopLines, List.mem_append] at hl
    simp only [List.map_cons, List.flatten_cons, List.map_append, ← List.append_assoc]
    rcases hl with hl | hl
    · exact lineOk_append _ (paramTopLines_ok test item hk l hl)
    · have := paramsTopLines_ok test items (pre ++ (paramTopBoxes test item).map Box.view)
        (getElem?_append_of_eq_some hk)
      rw [List.length_append, List.length_map] at this
      exact this l hl

/-- The controls' lines start at their own boxes. -/
theorem paramsTopLines_src (test : Bool) (k : Nat) :
    ∀ (items : List ItemInfo) (n : Nat), ∀ l ∈ paramsTopLines test k items n, n ≤ l.src
  | [], _ => by simp [paramsTopLines]
  | item :: items, n => by
    simp only [paramsTopLines, List.mem_append]
    rintro l (hl | hl)
    · unfold paramTopLines at hl
      split at hl <;> simp at hl <;> rcases hl with rfl | rfl <;> simp
    · have := paramsTopLines_src test k items _ l hl
      omega

/-- The controls' lines end at their own boxes or at the unit. -/
theorem paramsTopLines_dst (test : Bool) (k : Nat) :
    ∀ (items : List ItemInfo) (n : Nat), ∀ l ∈ paramsTopLines test k items n,
      l.dst = k ∨ n ≤ l.dst
  | [], _ => by simp [paramsTopLines]
  | item :: items, n => by
    simp only [paramsTopLines, List.mem_append]
    rintro l (hl | hl)
    · unfold paramTopLines at hl
      split at hl <;> simp at hl <;> rcases hl with rfl | rfl <;> simp
    · refine (paramsTopLines_dst test k items _ l hl).imp_right fun h => ?_
      omega

/-! ### The steps of `create_rnbo_patch` -/

theorem generateIoInfo_ports {midi : Bool} {numInputs numOutputs : Nat}
    {io : Nat × Nat × List IOEntry × List IOEntry}
    (h : generateIoInfo midi numInputs numOutputs = .ok io) :
    (io.1, io.2.1) = unitPorts midi numInputs numOutputs := by
  cases midi
  · simp only [generateIoInfo_false, Except.ok.injEq] at h
    subst h
    rfl
  · rw [generateIoInfo_true] at h
    split_ifs at h <;> cases h <;> rfl

theorem getElem?_block {vs more : List PortView} (j : Nat) {v : PortView}
    (h : more[j]? = some v) : (vs ++ more)[vs.length + j]? = some v := by
  rw [getElem?_append_length_add, h]

section Steps

variable {midi : Bool} {S : List (Nat × Nat)} {U : List Line}

/-- **`add_rnbo_object` keeps the invariant.** It appends the unit, declaring the ports of its
channel counts, and the parameter controls, whose lines land on inlet `0` of the unit. -/
theorem PatchInv.addRnboObject {p p' : Patcher Box} (h : PatchInv midi S U p)
    {dspName codeboxCode : String} {items : List ItemInfo} {nvoices : Int} {test : Bool}
    {numInputs numOutputs k : Nat} (hS : unitPorts midi numInputs numOutputs ∈ S)
    (ha : addRnboObject p dspName codeboxCode items midi nvoices test numInputs numOutputs =
      .ok (p', k)) :
    (PatchInv midi S U p' ∧ ViewsExtend p p') ∧ k = p.boxes.length ∧
      (p'.boxes.map Box.view)[k]? = some ("rnbo~", some (unitPorts midi numInputs numOutputs)) := by
  obtain ⟨io, s, hio, -, rfl, hb, hl⟩ := addRnboObject_ok ha
  have hv : p'.boxes.map Box.view = p.boxes.map Box.view ++
      (("rnbo~", some (unitPorts midi numInputs numOutputs)) ::
        (items.map (paramTopBoxes test)).flatten.map Box.view) := by
    rw [hb, List.map_append, List.map_cons, ← generateIoInfo_ports hio]
    rfl
  have hpre : (p.boxes.map Box.view ++ [("rnbo~", some (unitPorts midi numInputs numOutputs))])[
      p.boxes.length]? = some ("rnbo~", some (unitPorts midi numInputs numOutputs)) := by
    rw [← List.length_map p.boxes Box.view, getElem?_append_length]
    rfl
  refine ⟨h.extend hv hl ?_ (fun l hl' => ?_) ?_, rfl,
    by rw [hv, ← List.length_map p.boxes Box.view, getElem?_append_length, List.getElem?_cons_zero]⟩
  · rintro v (_ | ⟨_, hv'⟩) q hq
    · cases hq
      exact hS
    · simp [paramTopBoxes_views test items v hv'] at hq
  · have := paramsTopLines_ok test items _ hpre l
    simp only [List.length_append, List.length_map, List.length_singleton, List.append_assoc,
      List.singleton_append] at this
    exact this hl'
  · rw [List.append_cons, unitLines_block (paramTopBoxes_views test items), List.append_nil]
    intro l hl
    simp only [List.length_append, List.length_map, List.length_singleton]
    exact .inl (paramsTopLines_src test p.boxes.length items _ l hl)

/-- `connect_midi` keeps the invariant on a unit with MIDI. -/
theorem PatchInv.connectMidi {p : Patcher Box} (h : PatchInv true S U p)
    {k midiIn midiOut numInputs numOutputs : Nat}
    (hk : (p.boxes.map Box.view)[k]? = some ("rnbo~", some (unitPorts true numInputs numOutputs)))
    (hin : (p.boxes.map Box.view)[midiIn]? = some ("midiin", none))
    (hout : (p.boxes.map Box.view)[midiOut]? = some ("midiout", none)) :
    PatchInv true S U (connectMidi p k midiIn midiOut) ∧
      ViewsExtend p (connectMidi p k midiIn midiOut) := by
  unfold FaustRnbo.connectMidi
  rw [ports_eq hk]
  obtain ⟨h1, e1⟩ := h.addLine (show LineOk true _
    ⟨midiIn, 0, k, (unitPorts true numInputs numOutputs).1 - 1⟩ from
      lineOk_into hin hk inletOk_midi) (append_unitLines_singleton (Or.inl hin))
  obtain ⟨h2, e2⟩ := h1.addLine (show LineOk true _
    ⟨k, (unitPorts true numInputs numOutputs).2 - 3, midiOut, 0⟩ from
      lineOk_outOf hk hout outletOk_midi) (append_unitLines_singleton (Or.inr hout))
  exact ⟨h2, e1.trans e2⟩

/-- `connect_dsp_effect` keeps the invariant: its lines join signal outlets of the DSP unit to
signal inlets of the effect unit, and they are the new lines between two units. -/
theorem PatchInv.connectDspEffect {p : Patcher Box} (h : PatchInv midi S U p)
    {dspRnbo effectRnbo dspIn dspOut effectIn effectOut : Nat}
    (hd : (p.boxes.map Box.view)[dspRnbo]? = some ("rnbo~", some (unitPorts midi dspIn dspOut)))
    (he : (p.boxes.map Box.view)[effectRnbo]? =
      some ("rnbo~", some (unitPorts midi effectIn effectOut))) :
    PatchInv midi S (U ++ adaptationLines dspRnbo effectRnbo dspOut effectIn)
        (connectDspEffect p dspRnbo effectRnbo dspOut effectIn) ∧
      ViewsExtend p (connectDspEffect p dspRnbo effectRnbo dspOut effectIn) := by
  rw [connectDspEffect_eq]
  have hd' := getElem?_append_of_eq_some (r := []) hd
  have he' := getElem?_append_of_eq_some (r := []) he
  refine h.extend (List.append_nil _).symm rfl (by simp) (fun l hl => ?_) ?_
  · obtain ⟨q, hq, rfl⟩ := List.mem_map.mp hl
    have hlt := lt_of_mem_specAdaptation hq
    exact lineOk_between hd' he' (inletOk_audio (lt_max_of_lt_right hlt.2) (Or.inr rfl))
      (outletOk_audio (lt_max_of_lt_right hlt.1) (Or.inr rfl))
  · refine congrArg (U ++ ·) (List.filter_eq_self.mpr fun l hl => ?_)
    obtain ⟨q, -, rfl⟩ := List.mem_map.mp hl
    simp [isUnitAt, hd, he]

/-- `add_compile_test` keeps the invariant: its messages land on inlet `0` of the unit, and
the dump is read from its rightmost outlet. -/
theorem PatchInv.addCompileTest {p : Patcher Box} (h : PatchInv midi S U p)
    {k numInputs numOutputs : Nat}
    (hk : (p.boxes.map Box.view)[k]? = some ("rnbo~", some (unitPorts midi numInputs numOutputs)))
    (exportPath cppFilename : String) :
    PatchInv midi S U (addCompileTest p k exportPath cppFilename) ∧
      ViewsExtend p (addCompileTest p k exportPath cppFilename) := by
  have hlt : k < p.boxes.length := by
    simpa using (List.getElem?_eq_some_iff.mp hk).1
  have hnone : ∀ v ∈ (compileTestBoxes exportPath cppFilename).map Box.view, v.2 = none := by
    simp [compileTestBoxes, Box.plain, Box.view, Box.rnboPorts]
  rw [addCompileTest_eq p hlt, ports_eq hk]
  refine h.extend (List.map_append _ _ _) rfl (fun v hv q hq => by simp [hnone v hv] at hq) ?_
    (by rw [unitLines_block hnone (by simp [compileTestLines]), List.append_nil])
  have hk' := getElem?_append_of_eq_some
    (r := (compileTestBoxes exportPath cppFilename).map Box.view) hk
  rw [← List.length_map p.boxes Box.view]
  simp only [compileTestLines, List.mem_cons, List.mem_singleton, List.not_mem_nil, or_false]
  rintro l (rfl | rfl | rfl | rfl | rfl | rfl | rfl | rfl | rfl | rfl | rfl)
  · exact lineOk_plain "loadbang" "message" (getElem?_block 0 rfl) (getElem?_block 1 rfl)
  · exact lineOk_into (getElem?_block 1 rfl) hk' (inletOk_control (Or.inr rfl))
  · exact lineOk_plain "t" "dict" (getElem?_block 2 rfl) (getElem?_block 4 rfl)
  · exact lineOk_plain "t" "message" (getElem?_block 2 rfl) (getElem?_block 3 rfl)
  · exact lineOk_plain "t" "dict" (getElem?_block 2 rfl) (getElem?_block 4 rfl)
  · exact lineOk_plain "message" "dict" (getElem?_block 3 rfl) (getElem?_block 4 rfl)
  · exact lineOk_plain "dict" "route" (getElem?_block 4 rfl) (getElem?_block 5 rfl)
  · exact lineOk_plain "route" "message" (getElem?_block 5 rfl) (getElem?_block 6 rfl)
  · exact lineOk_plain "route" "t" (getElem?_block 7 rfl) (getElem?_block 2 rfl)
  · exact lineOk_into (getElem?_block 6 rfl) hk' (inletOk_control (Or.inr rfl))
  · exact lineOk_outOf hk' (getElem?_block 7 rfl) outletOk_dump

/-- `create_audio_output` keeps the invariant: outlet `i` of the unit feeds inlet `i` of the
`dac~`, for `i` below its output count. -/
theorem PatchInv.createAudioOutput {p : Patcher Box} (h : PatchInv midi S U p)
    {k numInputs numOutputs : Nat}
    (hk : (p.boxes.map Box.view)[k]? = some ("rnbo~", some (unitPorts midi numInputs numOutputs))) :
    PatchInv midi S U (createAudioOutput p k numOutputs) ∧
      ViewsExtend p (createAudioOutput p k numOutputs) := by
  rw [createAudioOutput_eq]
  have hnone : ∀ v ∈ [Box.plain [.sym "toggle"], .textbox (driverText "dac~" numOutputs)
      (some numOutputs) none].map Box.view, v.2 = none := by
    simp [Box.plain, Box.view, Box.rnboPorts]
  refine h.extend (List.map_append _ _ _) rfl (fun v hv q hq => by simp [hnone v hv] at hq) ?_
    (by rw [unitLines_block hnone (by simp), List.append_nil])
  have hk' := getElem?_append_of_eq_some
    (r := [Box.plain [.sym "toggle"], .textbox (driverText "dac~" numOutputs) (some numOutputs)
      none].map Box.view) hk
  rw [← List.length_map p.boxes Box.view]
  simp only [List.mem_cons, List.mem_map, List.mem_range]
  rintro l (rfl | ⟨i, hi, rfl⟩)
  · exact lineOk_plain "toggle" "dac~" (getElem?_block 0 rfl) (getElem?_block 1 rfl)
  · exact lineOk_outOf hk' (getElem?_block 1 rfl)
      (outletOk_audio (lt_max_of_lt_right hi) (Or.inl rfl))

/-- `create_audio_input` keeps the invariant: outlet `i` of the `adc~` feeds inlet `i` of the
unit, for `i` below its input count. -/
theorem PatchInv.createAudioInput {p : Patcher Box} (h : PatchInv midi S U p)
    {k numInputs numOutputs : Nat}
    (hk : (p.boxes.map Box.view)[k]? = some ("rnbo~", some (unitPorts midi numInputs numOutputs))) :
    PatchInv midi S U (createAudioInput p k numInputs) ∧
      ViewsExtend p (createAudioInput p k numInputs) := by
  rw [createAudioInput_eq]
  have hnone : ∀ v ∈ [Box.textbox (driverText "adc~" numInputs) none (some numInputs)].map
      Box.view, v.2 = none := by
    simp [Box.view, Box.rnboPorts]
  refine h.extend (List.map_append _ _ _) rfl (fun v hv q hq => by simp [hnone v hv] at hq) ?_
    (by rw [unitLines_block hnone (by simp), List.append_nil])
  have hk' := getElem?_append_of_eq_some
    (r := [Box.textbox (driverText "adc~" numInputs) none (some numInputs)].map Box.view) hk
  rw [← List.length_map p.boxes Box.view]
  simp only [List.mem_map, List.mem_range]
  rintro l ⟨i, hi, rfl⟩
  exact lineOk_into (getElem?_block 0 rfl) hk' (inletOk_audio (lt_max_of_lt_right hi) (Or.inl rfl))

theorem PatchInv.addBox {p : Patcher Box} (h : PatchInv midi S U p) (b : Box)
    (hb : b.rnboPorts = none) :
    PatchInv midi S U (p.addBox b).1 ∧ ViewsExtend p (p.addBox b).1 :=
  h.extend (List.map_append _ _ _) (List.append_nil _).symm (by simp [Box.view, hb]) (by simp)
    (by simp [unitLines])

/-- The MIDI block keeps the invariant; with MIDI it returns the ids of `midiin` and
`midiout`. -/
theorem PatchInv.addMidiObjects {p : Patcher Box} (h : PatchInv midi S U p)
    {k numInputs numOutputs : Nat}
    (hk : (p.boxes.map Box.view)[k]? = some ("rnbo~", some (unitPorts midi numInputs numOutputs))) :
    PatchInv midi S U (addMidiObjects p k midi).1 ∧ ViewsExtend p (addMidiObjects p k midi).1 ∧
      ∀ midiIn midiOut, (addMidiObjects p k midi).2 = some (midiIn, midiOut) → midi = true ∧
        ((addMidiObjects p k midi).1.boxes.map Box.view)[midiIn]? = some ("midiin", none) ∧
        ((addMidiObjects p k midi).1.boxes.map Box.view)[midiOut]? = some ("midiout", none) := by
  cases midi
  · exact ⟨h, ⟨[], by simp [FaustRnbo.addMidiObjects]⟩, by simp [FaustRnbo.addMidiObjects]⟩
  · obtain ⟨h1, e1⟩ := h.addBox (.plain [.sym "midiin"]) rfl
    obtain ⟨h2, e2⟩ := h1.addBox (.plain [.sym "midiout"]) rfl
    have hv : ((p.addBox (.plain [.sym "midiin"])).1.addBox (.plain [.sym "midiout"])).1.boxes.map
        Box.view = p.boxes.map Box.view ++ [("midiin", none), ("midiout", none)] := by
      simp [Box.plain]
    have hin : (((p.addBox (.plain [.sym "midiin"])).1.addBox (.plain [.sym "midiout"])).1.boxes.map
        Box.view)[p.boxes.length]? = some ("midiin", none) := by
      rw [hv, ← List.length_map p.boxes Box.view]
      exact getElem?_block 0 rfl
    have hout : (((p.addBox (.plain [.sym "midiin"])).1.addBox
        (.plain [.sym "midiout"])).1.boxes.map Box.view)[
          (p.boxes ++ [Box.plain [.sym "midiin"]]).length]? = some ("midiout", none) := by
      rw [hv, List.length_append, ← List.length_map p.boxes Box.view]
      exact getElem?_block 1 rfl
    obtain ⟨h3, e3⟩ := h2.connectMidi ((e1.trans e2).view hk) hin hout
    refine ⟨h3, (e1.trans e2).trans e3, ?_⟩
    rintro midiIn midiOut ⟨⟩
    exact ⟨rfl, hin, hout⟩

/-- The effect block keeps the invariant. With an effect unit it returns the id `k` of the
unit it adds after the DSP unit, and the lines between two units gain the adaptation lines
from the DSP unit to it. -/
theorem PatchInv.addEffect {p p' : Patcher Box} (h : PatchInv midi S U p)
    {dspRnbo dspIn dspOut : Nat}
    (hd : (p.boxes.map Box.view)[dspRnbo]? = some ("rnbo~", some (unitPorts midi dspIn dspOut)))
    {midiBoxes : Option (Nat × Nat)}
    (hm : ∀ midiIn midiOut, midiBoxes = some (midiIn, midiOut) → midi = true ∧
      (p.boxes.map Box.view)[midiIn]? = some ("midiin", none) ∧
      (p.boxes.map Box.view)[midiOut]? = some ("midiout", none))
    {effect : Option EffectUnit} (hS : ∀ e ∈ effect, unitPorts midi e.numInputs e.numOutputs ∈ S)
    {effectRnbo : Option Nat}
    (ha : addEffect p dspRnbo dspOut midi midiBoxes effect = .ok (p', effectRnbo)) :
    ViewsExtend p p' ∧
      (effect = none ∧ effectRnbo = none ∧ PatchInv midi S U p' ∨
        ∃ e k, effect = some e ∧ effectRnbo = some k ∧ dspRnbo < k ∧
          (p'.boxes.map Box.view)[k]? =
            some ("rnbo~", some (unitPorts midi e.numInputs e.numOutputs)) ∧
          PatchInv midi S (U ++ adaptationLines dspRnbo k dspOut e.numInputs) p') := by
  cases effect with
  | none =>
    simp only [FaustRnbo.addEffect, pure, Except.pure, Except.ok.injEq, Prod.mk.injEq] at ha
    obtain ⟨rfl, rfl⟩ := ha
    exact ⟨⟨[], by simp⟩, .inl ⟨rfl, rfl, h⟩⟩
  | some e =>
    simp only [FaustRnbo.addEffect, bind, except_bind_eq_ok, Prod.exists, pure, Except.pure,
      Except.ok.injEq, Prod.mk.injEq] at ha
    obtain ⟨p1, k1, ha, rfl, rfl⟩ := ha
    obtain ⟨⟨h1, e1⟩, hk1eq, hk1⟩ := h.addRnboObject (hS e rfl) ha
    have hlt : dspRnbo < k1 := by
      simpa [hk1eq] using (List.getElem?_eq_some_iff.mp hd).1
    obtain ⟨h2, e2⟩ := h1.connectDspEffect (e1.view hd) hk1
    have hk2 := e2.view hk1
    split
    · next _ midiIn midiOut =>
      obtain ⟨rfl, hin, hout⟩ := hm midiIn midiOut rfl
      obtain ⟨h3, e3⟩ := h2.connectMidi hk2 ((e1.trans e2).view hin) ((e1.trans e2).view hout)
      exact ⟨(e1.trans e2).trans e3, .inr ⟨e, k1, rfl, rfl, hlt, e3.view hk2, h3⟩⟩
    · exact ⟨e1.trans e2, .inr ⟨e, k1, rfl, rfl, hlt, hk2, h2⟩⟩

/-- The output block keeps the invariant: the `dac~` goes on a unit of the patch. -/
theorem PatchInv.addAudioOutput {p : Patcher Box} (h : PatchInv midi S U p)
    {dspRnbo dspIn dspOut : Nat}
    (hd : (p.boxes.map Box.view)[dspRnbo]? = some ("rnbo~", some (unitPorts midi dspIn dspOut)))
    {effect : Option EffectUnit} {effectRnbo : Option Nat}
    (he : ∀ e k, effect = some e → effectRnbo = some k →
      (p.boxes.map Box.view)[k]? = some ("rnbo~", some (unitPorts midi e.numInputs e.numOutputs))) :
    PatchInv midi S U (addAudioOutput p dspRnbo dspOut effect effectRnbo) ∧
      ViewsExtend p (addAudioOutput p dspRnbo dspOut effect effectRnbo) := by
  unfold FaustRnbo.addAudioOutput
  split
  · next e k => exact h.createAudioOutput (he e k rfl rfl)
  · exact h.createAudioOutput hd

end Steps

/-! ### The whole patch -/

/-- The ports the units of a patch declare: those of the DSP unit, and those of the effect unit
when one is added. -/
def patchUnitPorts (midi : Bool) (dspNumInputs dspNumOutputs : Nat)
    (effect : Option EffectUnit) : List (Nat × Nat) :=
  unitPorts midi dspNumInputs dspNumOutputs ::
    ((EffectUnit.added effect).map fun e => unitPorts midi e.numInputs e.numOutputs).toList

/-- The header comment starts the invariant: no line and no unit yet. -/
theorem patchInv_init {midi : Bool} {S : List (Nat × Nat)} :
    PatchInv midi S [] ⟨[Box.comment], []⟩ := by
  refine ⟨(fun l hl => by cases hl), fun v hv q hq => ?_, rfl⟩
  simp only [List.map_cons, List.map_nil, List.mem_singleton] at hv
  subst hv
  cases hq

/-- The run up to the effect block: the DSP unit at box `1` and, when an effect unit is added,
the effect unit at a later box `k`, with the adaptation lines as the only lines between two
units. -/
theorem createRnboPatch_inv_effect {dspName dspCodeboxCode : String}
    {dspItemsInfoList : List ItemInfo} {dspNumInputs dspNumOutputs : Nat} {midi : Bool}
    {nvoices : Int} {effect : Option EffectUnit} {test : Bool} {p1 p2 : Patcher Box} {k1 : Nat}
    {eff : Option Nat}
    (h1 : addRnboObject ⟨[.comment], []⟩ dspName dspCodeboxCode dspItemsInfoList midi nvoices
      test dspNumInputs dspNumOutputs = .ok (p1, k1))
    (h2 : addEffect (addMidiObjects p1 k1 midi).1 k1 dspNumOutputs midi
      (addMidiObjects p1 k1 midi).2 (EffectUnit.added effect) = .ok (p2, eff)) :
    k1 = 1 ∧
      (p2.boxes.map Box.view)[1]? =
        some ("rnbo~", some (unitPorts midi dspNumInputs dspNumOutputs)) ∧
      (EffectUnit.added effect = none ∧ eff = none ∧
          PatchInv midi (patchUnitPorts midi dspNumInputs dspNumOutputs effect) [] p2 ∨
        ∃ e k, EffectUnit.added effect = some e ∧ eff = some k ∧ 1 < k ∧
          (p2.boxes.map Box.view)[k]? =
            some ("rnbo~", some (unitPorts midi e.numInputs e.numOutputs)) ∧
          PatchInv midi (patchUnitPorts midi dspNumInputs dspNumOutputs effect)
            (adaptationLines 1 k dspNumOutputs e.numInputs) p2) := by
  obtain ⟨⟨i1, -⟩, hk1eq, hk1⟩ := patchInv_init.addRnboObject (List.mem_cons_self _ _) h1
  obtain rfl : k1 = 1 := hk1eq
  obtain ⟨i2, e2, hm⟩ := i1.addMidiObjects hk1
  obtain ⟨e3, heff⟩ := i2.addEffect (e2.view hk1) hm
    (fun e he => List.mem_cons_of_mem _ (Option.mem_toList.mpr (Option.mem_map_of_mem _ he))) h2
  refine ⟨rfl, (e2.trans e3).view hk1, ?_⟩
  rcases heff with ⟨hE, rfl, i3⟩ | ⟨e, k, hE, rfl, hlt, hk, i3⟩
  · exact .inl ⟨hE, rfl, i3⟩
  · exact .inr ⟨e, k, hE, rfl, hlt, hk, i3⟩

/-- **The run lemma.** Every patch `create_rnbo_patch` builds keeps the invariant, with the DSP
unit at box `1`: without an effect unit no line joins two units, and with one, added at some
box `k`, the lines between two units are the adaptation lines from the DSP unit to it. -/
theorem createRnboPatch_inv {dspName exportPath cppFilename dspCodeboxCode : String}
    {dspItemsInfoList : List ItemInfo} {dspNumInputs dspNumOutputs : Nat} {midi : Bool}
    {nvoices : Int} {effect : Option EffectUnit} {compile test : Bool} {P : Patcher Box}
    (h : createRnboPatch dspName exportPath cppFilename dspCodeboxCode dspItemsInfoList
      dspNumInputs dspNumOutputs midi nvoices effect compile test = .ok P) :
    (P.boxes.map Box.view)[1]? = some ("rnbo~", some (unitPorts midi dspNumInputs dspNumOutputs)) ∧
      (EffectUnit.added effect = none ∧
          PatchInv midi (patchUnitPorts midi dspNumInputs dspNumOutputs effect) [] P ∨
        ∃ e k, EffectUnit.added effect = some e ∧ 1 < k ∧
          (P.boxes.map Box.view)[k]? =
            some ("rnbo~", some (unitPorts midi e.numInputs e.numOutputs)) ∧
          PatchInv midi (patchUnitPorts midi dspNumInputs dspNumOutputs effect)
            (adaptationLines 1 k dspNumOutputs e.numInputs) P) := by
  obtain ⟨p1, k1, h1, p2, eff, h2, rfl⟩ := createRnboPatch_eq_ok.mp h
  obtain ⟨rfl, hk3, heff⟩ := createRnboPatch_inv_effect h1 h2
  -- the compile machinery and the audio drivers add no line between two units
  have finish := fun {U : List Line}
      (i3 : PatchInv midi (patchUnitPorts midi dspNumInputs dspNumOutputs effect) U p2)
      (he : ∀ e k, EffectUnit.added effect = some e → eff = some k →
        (p2.boxes.map Box.view)[k]? =
          some ("rnbo~", some (unitPorts midi e.numInputs e.numOutputs))) =>
    have r4 := i3.ite (compile = true) (f := fun q => addCompileTest q 1 exportPath cppFilename)
      fun _ => i3.addCompileTest hk3 _ _
    have r5 := r4.1.addAudioOutput (r4.2.view hk3) fun e k hE hK => r4.2.view (he e k hE hK)
    have r6 := r5.1.ite (0 < dspNumInputs) (f := fun q => createAudioInput q 1 dspNumInputs)
      fun _ => r5.1.createAudioInput ((r4.2.trans r5.2).view hk3)
    And.intro r6.1 ((r4.2.trans r5.2).trans r6.2)
  rcases heff with ⟨hE, rfl, i3⟩ | ⟨e, k, hE, rfl, hlt, hk, i3⟩
  · have r := finish i3 (by simp [hE])
    exact ⟨r.2.view hk3, .inl ⟨hE, r.1⟩⟩
  · have r := finish i3 fun e' k' hE' hK' => by
      cases hE.symm.trans hE'
      cases hK'
      exact hk
    exact ⟨r.2.view hk3, .inr ⟨e, k, hE, hlt, r.2.view hk, r.1⟩⟩

/-- **The port discipline of the patch.** In every patch `create_rnbo_patch` builds without
raising, every line keeps the port discipline (`LineOk`), and every `rnbo~` box declares the
ports of the DSP unit or of the effect unit: so an audio line uses a signal port below
`max 1` of the channel count of its unit, `midiin` and `midiout` use exactly the last inlet
and the outlet third from the right and no other line does, the dump uses exactly the rightmost
outlet, and controls and messages land on inlet `0`. -/
theorem createRnboPatch_ports {dspName exportPath cppFilename dspCodeboxCode : String}
    {dspItemsInfoList : List ItemInfo} {dspNumInputs dspNumOutputs : Nat} {midi : Bool}
    {nvoices : Int} {effect : Option EffectUnit} {compile test : Bool} {P : Patcher Box}
    (h : createRnboPatch dspName exportPath cppFilename dspCodeboxCode dspItemsInfoList
      dspNumInputs dspNumOutputs midi nvoices effect compile test = .ok P) :
    (∀ l ∈ P.lines, LineOk midi (P.boxes.map Box.view) l) ∧
      ∀ b ∈ P.boxes, ∀ q, b.rnboPorts = some q →
        q = unitPorts midi dspNumInputs dspNumOutputs ∨
          ∃ e, effect = some e ∧ e.codeboxCode ≠ "" ∧
            q = unitPorts midi e.numInputs e.numOutputs := by
  obtain ⟨U, i⟩ : ∃ U,
      PatchInv midi (patchUnitPorts midi dspNumInputs dspNumOutputs effect) U P := by
    obtain ⟨-, ⟨-, i⟩ | ⟨_, _, -, -, -, i⟩⟩ := createRnboPatch_inv h
    exacts [⟨_, i⟩, ⟨_, i⟩]
  refine ⟨i.lines_ok, fun b hb q hq => ?_⟩
  have hS := i.ports_mem b.view (List.mem_map_of_mem _ hb) q (by simpa [Box.view] using hq)
  simp only [patchUnitPorts, List.mem_cons, Option.mem_toList, Option.mem_def,
    Option.map_eq_some'] at hS
  rcases hS with hS | ⟨e, he, rfl⟩
  · exact Or.inl hS
  · exact Or.inr ⟨e, (EffectUnit.added_eq_some.mp he).1, (EffectUnit.added_eq_some.mp he).2, rfl⟩

/-- A MIDI synth with a gate and a frequency, two outputs, an effect with two inputs and two
outputs, and the compile machinery: every line of its patch keeps the discipline. -/
theorem createRnboPatch_ports_synth :
    ∃ P, createRnboPatch "synth" "export" "synth.cpp" "out1 = in1;"
        [⟨"gate", "button", 0, 0, 1, 1, []⟩, ⟨"freq", "hslider", 440, 20, 2000, 1, ["ctrl", "1"]⟩]
        0 2 true 4 (some ⟨"out1 = in1;", [], 2, 2⟩) true false = .ok P ∧
      (∀ l ∈ P.lines, LineOk true (P.boxes.map Box.view) l) ∧
      ∀ b ∈ P.boxes, ∀ q, b.rnboPorts = some q →
        q = unitPorts true 0 2 ∨
          ∃ e : EffectUnit, some ⟨"out1 = in1;", [], 2, 2⟩ = some e ∧ e.codeboxCode ≠ "" ∧
            q = unitPorts true e.numInputs e.numOutputs :=
  ⟨_, rfl, @createRnboPatch_ports "synth" "export" "synth.cpp" "out1 = in1;"
    [⟨"gate", "button", 0, 0, 1, 1, []⟩, ⟨"freq", "hslider", 440, 20, 2000, 1, ["ctrl", "1"]⟩]
    0 2 true 4 (some ⟨"out1 = in1;", [], 2, 2⟩) true false _ rfl⟩

/-- **The lines between the units are the adaptation table.** In every patch
`create_rnbo_patch` builds, the DSP unit is box `1`. Without an effect unit no line joins two
units. With one, added at some box `k` after it, the lines that join two units are exactly the
lines of the channel adaptation table of the specification from the DSP unit into the effect
unit, in its order: none is lost, duplicated or added elsewhere. -/
theorem createRnboPatch_unit_lines {dspName exportPath cppFilename dspCodeboxCode : String}
    {dspItemsInfoList : List ItemInfo} {dspNumInputs dspNumOutputs : Nat} {midi : Bool}
    {nvoices : Int} {effect : Option EffectUnit} {compile test : Bool} {P : Patcher Box}
    (h : createRnboPatch dspName exportPath cppFilename dspCodeboxCode dspItemsInfoList
      dspNumInputs dspNumOutputs midi nvoices effect compile test = .ok P) :
    (P.boxes.map Box.view)[1]? = some ("rnbo~", some (unitPorts midi dspNumInputs dspNumOutputs)) ∧
      (EffectUnit.added effect = none → unitLines (P.boxes.map Box.view) P.lines = []) ∧
      ∀ e, EffectUnit.added effect = some e → ∃ k, 1 < k ∧
        (P.boxes.map Box.view)[k]? =
          some ("rnbo~", some (unitPorts midi e.numInputs e.numOutputs)) ∧
        unitLines (P.boxes.map Box.view) P.lines =
          adaptationLines 1 k dspNumOutputs e.numInputs := by
  obtain ⟨h1, ⟨hE, i⟩ | ⟨e, k, hE, hk, hv, i⟩⟩ := createRnboPatch_inv h
  · exact ⟨h1, fun _ => i.unit_lines, fun e he => absurd (hE.symm.trans he) (by simp)⟩
  · refine ⟨h1, fun he => absurd (hE.symm.trans he) (by simp), fun e' he' => ?_⟩
    cases hE.symm.trans he'
    exact ⟨k, hk, hv, i.unit_lines⟩

/-- A DSP unit with two outputs and an effect with two inputs: the two lines between them are
the parallel lines of the table. -/
theorem createRnboPatch_unit_lines_synth :
    ∃ P, createRnboPatch "synth" "export" "synth.cpp" "out1 = in1;"
        [⟨"gate", "button", 0, 0, 1, 1, []⟩, ⟨"freq", "hslider", 440, 20, 2000, 1, ["ctrl", "1"]⟩]
        0 2 true 4 (some ⟨"out1 = in1;", [], 2, 2⟩) true false = .ok P ∧
      (P.boxes.map Box.view)[1]? = some ("rnbo~", some (unitPorts true 0 2)) ∧
      (EffectUnit.added (some ⟨"out1 = in1;", [], 2, 2⟩) = none →
        unitLines (P.boxes.map Box.view) P.lines = []) ∧
      ∀ e, EffectUnit.added (some ⟨"out1 = in1;", [], 2, 2⟩) = some e → ∃ k, 1 < k ∧
        (P.boxes.map Box.view)[k]? =
          some ("rnbo~", some (unitPorts true e.numInputs e.numOutputs)) ∧
        unitLines (P.boxes.map Box.view) P.lines = adaptationLines 1 k 2 e.numInputs :=
  ⟨_, rfl, @createRnboPatch_unit_lines "synth" "export" "synth.cpp" "out1 = in1;"
    [⟨"gate", "button", 0, 0, 1, 1, []⟩, ⟨"freq", "hslider", 440, 20, 2000, 1, ["ctrl", "1"]⟩]
    0 2 true 4 (some ⟨"out1 = in1;", [], 2, 2⟩) true false _ rfl⟩

end FaustRnbo
