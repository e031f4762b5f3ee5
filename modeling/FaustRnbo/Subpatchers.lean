import FaustRnbo.Polyphony
import FaustRnbo.Ports

/-!
# The Units and Their Subpatchers

A patch line names its two ends by box id, and `add_line` takes the ids it is given: a line
whose end is not a box of its patcher is a dangling reference in the saved patch. The lines of
the top-level patcher end at its boxes (`createRnboPatch_ports`); this module shows the same
of the subpatcher of every `rnbo~` box.

Each function that fills a subpatcher adds lines only between the boxes it was given and the
boxes it has just added. The parameter loop keeps its subpatcher closed, with the `codebox~`
and the relays it holds for polyphony among its boxes (`SubState`, `addParams_subState`); the
polyphony step then joins the boxes it adds to those relays. On the top level no step of
`create_rnbo_patch` changes a box once it is added, so the subpatchers of the `rnbo~` boxes
stay as `add_rnbo_object` left them. The same frame places the two units: the DSP unit at box 1
and the effect unit after it, each as `add_rnbo_object` built it.

## Main results

* `addParams_subState`: the parameter loop keeps its subpatcher closed.
* `createRnboPatch_subpatchers_closed`: in every patch `create_rnbo_patch` builds, every line
  of the subpatcher of every `rnbo~` box joins two boxes of that subpatcher.
* `createRnboPatch_units`: the title, polyphony attribute and ports of the DSP unit and of the
  effect unit, and the effect unit's subpatcher.
-/

namespace FaustRnbo

/-! ### Closed patchers -/

/-- Every line of a patcher joins two of its boxes. -/
def Patcher.Closed {β : Type} (p : Patcher β) : Prop :=
  ∀ l ∈ p.lines, l.src < p.boxes.length ∧ l.dst < p.boxes.length

namespace Patcher.Closed

variable {β : Type} {p : Patcher β}

/-- Appending boxes, and lines between boxes of the result, keeps a patcher closed. -/
theorem append (h : p.Closed) (more : List β) {ls : List Line}
    (hls : ∀ l ∈ ls, l.src < p.boxes.length + more.length ∧ l.dst < p.boxes.length + more.length) :
    (⟨p.boxes ++ more, p.lines ++ ls⟩ : Patcher β).Closed := by
  intro l hl
  simp only [List.mem_append, List.length_append] at hl ⊢
  rcases hl with hl | hl
  · have := h l hl
    omega
  · exact hls l hl

/-- Adding a box, and a line between it and box `c`, keeps a patcher closed. -/
theorem addBox_line (h : p.Closed) {c : Nat} (hc : c < p.boxes.length) (b : β)
    (inlet outlet : Nat) :
    ((p.addBox b).1.addLine p.boxes.length c inlet outlet).Closed ∧
      ((p.addBox b).1.addLine c p.boxes.length inlet outlet).Closed := by
  constructor <;>
  · refine h.append [b] fun l hl => ?_
    simp only [List.mem_singleton] at hl
    subst hl
    simp only [List.length_singleton]
    omega

end Patcher.Closed

/-- A loop whose body keeps a patcher closed and box `c` in it keeps both. -/
theorem foldl_closed {β : Type} {c : Nat} (f : Patcher β → Nat → Patcher β)
    (hf : ∀ q i, q.Closed → c < q.boxes.length → (f q i).Closed ∧ c < (f q i).boxes.length) :
    ∀ (xs : List Nat) (p : Patcher β), p.Closed → c < p.boxes.length →
      (xs.foldl f p).Closed ∧ c < (xs.foldl f p).boxes.length
  | [], _, h, hc => ⟨h, hc⟩
  | x :: xs, p, h, hc => foldl_closed f hf xs (f p x) (hf p x h hc).1 (hf p x h hc).2

/-! ### The subpatcher of one unit -/

theorem addAudioBoxes_closed {p : Patcher SubBox} {codebox : Nat} (h : p.Closed)
    (hc : codebox < p.boxes.length) (numInputs numOutputs : Nat) :
    (addAudioBoxes p codebox numInputs numOutputs).Closed ∧
      codebox < (addAudioBoxes p codebox numInputs numOutputs).boxes.length := by
  have hin : ∀ q : Patcher SubBox, q.Closed → codebox < q.boxes.length →
      (addInputs q codebox numInputs).Closed ∧
        codebox < (addInputs q codebox numInputs).boxes.length := fun q hq hqc =>
    foldl_closed _ (fun q i hq hqc => ⟨(hq.addBox_line hqc _ i 0).1, by simp; omega⟩) _ q hq hqc
  have hout : ∀ q : Patcher SubBox, q.Closed → codebox < q.boxes.length →
      (addOutputs q codebox numOutputs).Closed ∧
        codebox < (addOutputs q codebox numOutputs).boxes.length := fun q hq hqc =>
    foldl_closed _ (fun q i hq hqc => ⟨(hq.addBox_line hqc _ 0 i).2, by simp; omega⟩) _ q hq hqc
  unfold addAudioBoxes
  split
  · obtain ⟨h1, h2⟩ := hin _ (h.addBox_line hc (.textbox [.sym "in~", .num 1]) 0 0).1
      (by simp; omega)
    exact hout _ h1 h2
  · obtain ⟨h1, h2⟩ := hin p h hc
    exact hout _ h1 h2

/-- The lines one parameter adds join boxes of its own block to its relay and the
`codebox~`. -/
theorem paramSubLines_closed (midi test : Bool) (item : ItemInfo) {codebox n : Nat}
    (hc : codebox < n) :
    ∀ l ∈ paramSubLines midi item codebox n, l.src < n + (paramSubBoxes midi test item).length ∧
      l.dst < n + (paramSubBoxes midi test item).length := by
  have hlen : (paramSubBoxes midi test item).length =
      2 + if midi && midiSupported item.midi then 4 else 0 := by
    cases midi <;> simp [paramSubBoxes, itemMidiChain_length]
    omega
  rw [hlen]
  cases midi <;> cases hs : midiSupported item.midi <;>
    simp [paramSubLines, midiChainLines, hs] <;> omega

/-- The relays the polyphony accumulators hold. -/
def Voicing.relays (v : Voicing) : List Nat :=
  v.pitch.toList ++ v.gain.toList ++ v.gate.toList

theorem mem_ite_some {c : Prop} [Decidable c] {k x : Nat} {o : Option Nat}
    (h : x ∈ if c then some k else o) : x = k ∨ x ∈ o := by
  split_ifs at h
  · exact .inl (Option.some_inj.mp h).symm
  · exact .inr h

/-- The analysis of a parameter holds its own relay or the relays held before. -/
theorem analyse_relays (v : Voicing) (s : String) (k : Nat) :
    ∀ x ∈ (v.analyse s k).relays, x = k ∨ x ∈ v.relays := by
  rw [analyse_eq]
  simp only [Voicing.relays, List.mem_append, Option.mem_toList]
  rintro x ((h | h) | h) <;> rcases mem_ite_some h with rfl | h <;> simp [h]

/-- What the parameter loop keeps of its state for the closure of the subpatcher. -/
structure SubState (c : ParamContext) (s : ParamState) : Prop where
  closed : s.subPatch.Closed
  codebox_lt : c.codebox < s.subPatch.boxes.length
  relays_lt : ∀ x ∈ s.voicing.relays, x < s.subPatch.boxes.length

/-- **The step lemma.** One iteration of the loop keeps `SubState`. -/
theorem SubState.extend {c : ParamContext} {s : ParamState} (h : SubState c s)
    (item : ItemInfo) : SubState c (s.extend c item) where
  closed := h.closed.append _ (paramSubLines_closed c.midi c.test item h.codebox_lt)
  codebox_lt := by
    simp only [ParamState.extend, List.length_append]
    exact Nat.lt_add_right _ h.codebox_lt
  relays_lt := by
    have hlen : 2 ≤ (paramSubBoxes c.midi c.test item).length := by simp [paramSubBoxes]
    intro x hx
    simp only [ParamState.extend, List.length_append] at hx ⊢
    split_ifs at hx
    · rcases analyse_relays _ _ _ x hx with rfl | hx
      · omega
      · have := h.relays_lt x hx
        omega
    · have := h.relays_lt x hx
      omega

/-- **The run lemma.** The parameter loop keeps `SubState`. -/
theorem addParams_subState {c : ParamContext} :
    ∀ {items : List ItemInfo} {s s' : ParamState}, addParams c items s = .ok s' →
      SubState c s → SubState c s'
  | [], _, _, h, hs => by
    cases h
    exact hs
  | item :: items, s, _, h, hs => addParams_subState (addParams_cons_ok h) (hs.extend item)

theorem polyphonyLines_closed {n pitch gain gate : Nat} (hp : pitch < n) (hg : gain < n)
    (ht : gate < n) (isFreq isGain : Bool) :
    ∀ l ∈ polyphonyLines n pitch gain gate isFreq isGain,
      l.src < n + (polyphonyBoxes isFreq isGain).length ∧
        l.dst < n + (polyphonyBoxes isFreq isGain).length := by
  cases isFreq <;> cases isGain <;> simp [polyphonyLines, polyphonyBoxes] <;> omega

/-- The polyphony step joins the boxes it adds to relays of the subpatcher. -/
theorem polyphonyStep_closed {c : ParamContext} {s : ParamState} (h : SubState c s)
    (midi : Bool) (nvoices : Int) : (polyphonyStep midi nvoices s).Closed := by
  unfold polyphonyStep
  split
  · next pitch gain gate _ hp hg ht =>
    have hr : ∀ x, x ∈ s.voicing.relays → x < s.subPatch.boxes.length := h.relays_lt
    rw [addPolyphonyControl_eq]
    exact h.closed.append _ (polyphonyLines_closed (hr pitch (by simp [Voicing.relays, hp]))
      (hr gain (by simp [Voicing.relays, hg])) (hr gate (by simp [Voicing.relays, ht])) _ _)
  · exact h.closed

/-! ### The subpatchers of the patch -/

/-- The subpatcher of every `rnbo~` box of a patcher is closed. -/
def SubpatchersClosed (p : Patcher Box) : Prop :=
  ∀ r, Box.rnbo r ∈ p.boxes → r.subpatcher.Closed

namespace SubpatchersClosed

variable {p p' : Patcher Box}

/-- A step that only appends boxes, whose subpatchers are closed, keeps the invariant. -/
theorem append (h : SubpatchersClosed p) {more : List Box} (hb : p'.boxes = p.boxes ++ more)
    (hm : ∀ r, Box.rnbo r ∈ more → r.subpatcher.Closed) : SubpatchersClosed p' := by
  intro r hr
  rw [hb, List.mem_append] at hr
  exact hr.elim (h r) (hm r)

/-- **`add_rnbo_object` keeps the invariant**: the subpatcher it fills is closed. -/
theorem addRnboObject (h : SubpatchersClosed p) {dspName codeboxCode : String}
    {items : List ItemInfo} {midi : Bool} {nvoices : Int} {test : Bool}
    {numInputs numOutputs k : Nat}
    (ha : addRnboObject p dspName codeboxCode items midi nvoices test numInputs numOutputs =
      .ok (p', k)) : SubpatchersClosed p' := by
  obtain ⟨io, s, -, hs, -, hb, -⟩ := addRnboObject_ok ha
  have hc : (addAudioBoxes ⟨[.codebox codeboxCode], []⟩ 0 numInputs numOutputs).Closed ∧
      0 < (addAudioBoxes ⟨[.codebox codeboxCode], []⟩ 0 numInputs numOutputs).boxes.length :=
    addAudioBoxes_closed (fun l hl => by cases hl) (by simp) numInputs numOutputs
  have hsub := addParams_subState hs ⟨hc.1, hc.2, by simp [Voicing.relays, Voicing.init]⟩
  refine h.append hb fun r hr => ?_
  rcases List.mem_cons.mp hr with hr | hr
  · cases hr
    exact polyphonyStep_closed hsub midi nvoices
  · obtain ⟨bs, hbs, hr⟩ := List.mem_flatten.mp hr
    obtain ⟨item, -, rfl⟩ := List.mem_map.mp hbs
    exact absurd (paramTopBoxes_rnboPorts test item _ hr) (by simp [Box.rnboPorts])

theorem of_boxes_eq (h : SubpatchersClosed p) (hb : p'.boxes = p.boxes) :
    SubpatchersClosed p' :=
  fun r hr => h r (hb ▸ hr)

/-- A step that appends no `rnbo~` box keeps the invariant. -/
theorem appendPlain (h : SubpatchersClosed p) {more : List Box} (hb : p'.boxes = p.boxes ++ more)
    (hm : ∀ b ∈ more, b.rnboPorts = none) : SubpatchersClosed p' :=
  h.append hb fun _ hr => absurd (hm _ hr) (by simp [Box.rnboPorts])

theorem addEffect (h : SubpatchersClosed p) {dspRnbo dspNumOutputs : Nat} {midi : Bool}
    {midiBoxes : Option (Nat × Nat)} {effect : Option EffectUnit} {effectRnbo : Option Nat}
    (ha : addEffect p dspRnbo dspNumOutputs midi midiBoxes effect = .ok (p', effectRnbo)) :
    SubpatchersClosed p' := by
  rcases addEffect_eq_ok ha with ⟨-, -, rfl⟩ | ⟨e, p1, k, -, -, ha, hb⟩
  · exact h
  · exact (h.addRnboObject ha).of_boxes_eq hb

theorem createAudioOutput (h : SubpatchersClosed p) (rnbo numOutputs : Nat) :
    SubpatchersClosed (FaustRnbo.createAudioOutput p rnbo numOutputs) :=
  h.appendPlain (by rw [createAudioOutput_eq]) (by simp [Box.plain, Box.rnboPorts])

theorem addAudioOutput (h : SubpatchersClosed p) (dspRnbo dspNumOutputs : Nat)
    (effect : Option EffectUnit) (effectRnbo : Option Nat) :
    SubpatchersClosed (FaustRnbo.addAudioOutput p dspRnbo dspNumOutputs effect effectRnbo) := by
  unfold FaustRnbo.addAudioOutput
  split <;> exact h.createAudioOutput _ _

end SubpatchersClosed

/-- **The subpatchers of the patch are closed.** In every patch `create_rnbo_patch` builds
without raising, every line of the subpatcher of every `rnbo~` box joins two boxes of that
subpatcher. -/
theorem createRnboPatch_subpatchers_closed {dspName exportPath cppFilename dspCodeboxCode : String}
    {dspItemsInfoList : List ItemInfo} {dspNumInputs dspNumOutputs : Nat} {midi : Bool}
    {nvoices : Int} {effect : Option EffectUnit} {compile test : Bool} {P : Patcher Box}
    (h : createRnboPatch dspName exportPath cppFilename dspCodeboxCode dspItemsInfoList
      dspNumInputs dspNumOutputs midi nvoices effect compile test = .ok P) :
    ∀ r, Box.rnbo r ∈ P.boxes → r.subpatcher.Closed := by
  obtain ⟨p1, k1, h1, p2, eff, h2, rfl⟩ := createRnboPatch_eq_ok.mp h
  have i0 : SubpatchersClosed ⟨[Box.comment], []⟩ := by simp [SubpatchersClosed]
  have i2 := ((i0.addRnboObject h1).appendPlain (addMidiObjects_boxes p1 k1 midi)
    (by cases midi <;> simp [Box.plain, Box.rnboPorts])).addEffect h2
  have i3 : SubpatchersClosed (if compile then addCompileTest p2 k1 exportPath cppFilename
      else p2) := by
    split
    · exact i2.appendPlain (addCompileTest_boxes _ _ _ _)
        (by simp [compileTestBoxes, Box.plain, Box.rnboPorts])
    · exact i2
  have i4 := i3.addAudioOutput k1 dspNumOutputs (EffectUnit.added effect) eff
  split
  · exact i4.appendPlain (by rw [createAudioInput_eq]) (by simp [Box.rnboPorts])
  · exact i4

/-- The patch of a MIDI synth with an effect and the compile machinery has closed
subpatchers. -/
theorem createRnboPatch_subpatchers_closed_synth :
    ∃ P, createRnboPatch "synth" "export" "synth.cpp" "out1 = in1;"
        [⟨"gate", "button", 0, 0, 1, 1, []⟩, ⟨"freq", "hslider", 440, 20, 2000, 1, ["ctrl", "1"]⟩]
        0 2 true 4 (some ⟨"out1 = in1;", [], 2, 2⟩) true false = .ok P ∧
      ∀ r, Box.rnbo r ∈ P.boxes → r.subpatcher.Closed :=
  ⟨_, rfl, @createRnboPatch_subpatchers_closed "synth" "export" "synth.cpp" "out1 = in1;"
    [⟨"gate", "button", 0, 0, 1, 1, []⟩, ⟨"freq", "hslider", 440, 20, 2000, 1, ["ctrl", "1"]⟩]
    0 2 true 4 (some ⟨"out1 = in1;", [], 2, 2⟩) true false _ rfl⟩

/-! ### The units of the patch -/

/-- The `rnbo~` box `add_rnbo_object` places for a unit, after the boxes it is given: its ports
are the unit's, and its subpatcher follows the parameter loop's. -/
theorem addRnboObject_box {p p' : Patcher Box} {dspName codeboxCode : String}
    {items : List ItemInfo} {midi : Bool} {nvoices : Int} {test : Bool}
    {numInputs numOutputs k : Nat}
    (ha : addRnboObject p dspName codeboxCode items midi nvoices test numInputs numOutputs =
      .ok (p', k)) :
    k = p.boxes.length ∧ p.boxes <+: p'.boxes ∧
      ∃ io s, (io.1, io.2.1) = unitPorts midi numInputs numOutputs ∧
        s.subPatch = loopSubpatcher codeboxCode items midi test numInputs numOutputs ∧
        p'.boxes[k]? = some (.rnbo { rnboRecord dspName midi nvoices io with
          subpatcher := polyphonyStep midi nvoices s }) := by
  obtain ⟨io, s, hio, hs, rfl, hb, -⟩ := addRnboObject_ok ha
  refine ⟨rfl, hb ▸ List.prefix_append _ _, io, s, generateIoInfo_ports hio,
    addParams_loopSubpatcher hs, ?_⟩
  rw [hb, getElem?_append_length, List.getElem?_cons_zero]

/-- **The effect unit.** The effect block places the effect unit, when there is one, right after
the boxes it is given: titled `Effect`, without a polyphony attribute, with the ports of its
channels under the script's MIDI flag, and with the parameter loop's subpatcher. -/
theorem addEffect_box {p p' : Patcher Box} {dspRnbo dspNumOutputs : Nat} {midi : Bool}
    {midiBoxes : Option (Nat × Nat)} {effect : Option EffectUnit} {effectRnbo : Option Nat}
    (h : addEffect p dspRnbo dspNumOutputs midi midiBoxes effect = .ok (p', effectRnbo)) :
    p.boxes <+: p'.boxes ∧ (effect = none → effectRnbo = none) ∧
      ∀ e, effect = some e → ∃ r, effectRnbo = some p.boxes.length ∧
        p'.boxes[p.boxes.length]? = some (.rnbo r) ∧ r.title = "Effect" ∧
        r.savedObjectAttributes.polyphony = none ∧
        (r.numinlets, r.numoutlets) = unitPorts midi e.numInputs e.numOutputs ∧
        r.subpatcher =
          loopSubpatcher e.codeboxCode e.itemsInfoList midi false e.numInputs e.numOutputs := by
  rcases addEffect_eq_ok h with ⟨rfl, rfl, rfl⟩ | ⟨e, p1, k, rfl, rfl, ha, hb⟩
  · exact ⟨List.prefix_refl _, fun _ => rfl, fun e he => by cases he⟩
  · obtain ⟨rfl, hp, io, s, hio, hs, hbk⟩ := addRnboObject_box ha
    refine ⟨hb ▸ hp, fun h => (by cases h), fun e' he' => ?_⟩
    cases he'
    exact ⟨_, rfl, hb ▸ hbk, rfl, by simp [rnboRecord], hio, by simp [polyphonyStep, hs]⟩

/-- **The units of the patch.** In every patch `create_rnbo_patch` builds, box 1 is the DSP
unit: its title is the script's name, it has the polyphony attribute of the voice count when
MIDI is on and the count is positive, and the ports of its channels. An effect unit, when its
codebox is non-empty, is a later box titled `Effect` with no polyphony attribute. Its
subpatcher is the parameter loop's, with no polyphony subgraph and with plain labels, and it
takes the script's MIDI flag, for its ports and its parameters' MIDI chains alike. -/
theorem createRnboPatch_units {dspName exportPath cppFilename dspCodeboxCode : String}
    {dspItemsInfoList : List ItemInfo} {dspNumInputs dspNumOutputs : Nat} {midi : Bool}
    {nvoices : Int} {effect : Option EffectUnit} {compile test : Bool} {P : Patcher Box}
    (h : createRnboPatch dspName exportPath cppFilename dspCodeboxCode dspItemsInfoList
      dspNumInputs dspNumOutputs midi nvoices effect compile test = .ok P) :
    (∃ r, P.boxes[1]? = some (.rnbo r) ∧ r.title = dspName ∧
      r.savedObjectAttributes.polyphony =
        (if midi && decide (0 < nvoices) then some nvoices else none) ∧
      (r.numinlets, r.numoutlets) = unitPorts midi dspNumInputs dspNumOutputs) ∧
    ∀ e, EffectUnit.added effect = some e → ∃ k r, 1 < k ∧ P.boxes[k]? = some (.rnbo r) ∧
      r.title = "Effect" ∧ r.savedObjectAttributes.polyphony = none ∧
      (r.numinlets, r.numoutlets) = unitPorts midi e.numInputs e.numOutputs ∧
      r.subpatcher =
        loopSubpatcher e.codeboxCode e.itemsInfoList midi false e.numInputs e.numOutputs := by
  obtain ⟨p1, k1, h1, p2, eff, h2, rfl⟩ := createRnboPatch_eq_ok.mp h
  obtain ⟨rfl, -, io, s, hio, -, hb1⟩ := addRnboObject_box h1
  have hmid : p1.boxes <+: (addMidiObjects p1 1 midi).1.boxes := by
    rw [addMidiObjects_boxes]
    exact List.prefix_append _ _
  obtain ⟨hp2, -, heff⟩ := addEffect_box h2
  have htail := createRnboPatch_tail_extends p2 1 exportPath cppFilename dspNumInputs
    dspNumOutputs (EffectUnit.added effect) eff compile
  refine ⟨⟨_, getElem?_of_extends ((hmid.trans hp2).trans htail) hb1, rfl, rfl, hio⟩,
    fun e he => ?_⟩
  obtain ⟨r, -, hr, hfacts⟩ := heff e he
  refine ⟨_, r, ?_, getElem?_of_extends htail hr, hfacts⟩
  have h1 : 1 < p1.boxes.length := (List.getElem?_eq_some_iff.mp hb1).1
  exact Nat.lt_of_lt_of_le h1 hmid.length_le

/-- A MIDI synth with an effect: the synth is box 1 with four voices, and the effect unit
follows, with its MIDI ports and no polyphony. -/
theorem createRnboPatch_units_synth :
    ∃ P, createRnboPatch "synth" "export" "synth.cpp" "out1 = in1;"
        [⟨"gate", "button", 0, 0, 1, 1, []⟩, ⟨"freq", "hslider", 440, 20, 2000, 1, ["ctrl", "1"]⟩]
        0 2 true 4 (some ⟨"out1 = in1;", [], 2, 2⟩) true false = .ok P ∧
      (∃ r, P.boxes[1]? = some (.rnbo r) ∧ r.title = "synth" ∧
        r.savedObjectAttributes.polyphony =
          (if true && decide ((0 : Int) < 4) then some 4 else none) ∧
        (r.numinlets, r.numoutlets) = unitPorts true 0 2) ∧
      ∀ e, EffectUnit.added (some ⟨"out1 = in1;", [], 2, 2⟩) = some e → ∃ k r, 1 < k ∧
        P.boxes[k]? = some (.rnbo r) ∧ r.title = "Effect" ∧
        r.savedObjectAttributes.polyphony = none ∧
        (r.numinlets, r.numoutlets) = unitPorts true e.numInputs e.numOutputs ∧
        r.subpatcher =
          loopSubpatcher e.codeboxCode e.itemsInfoList true false e.numInputs e.numOutputs :=
  ⟨_, rfl, @createRnboPatch_units "synth" "export" "synth.cpp" "out1 = in1;"
    [⟨"gate", "button", 0, 0, 1, 1, []⟩, ⟨"freq", "hslider", 440, 20, 2000, 1, ["ctrl", "1"]⟩]
    0 2 true 4 (some ⟨"out1 = in1;", [], 2, 2⟩) true false _ rfl⟩

end FaustRnbo
