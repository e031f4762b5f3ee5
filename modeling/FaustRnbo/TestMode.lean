import FaustRnbo.RnboWiring
import FaustRnbo.Patch

/-!
# The Test Flag Only Changes Labels

With `test` on, `build_label` prefixes every parameter label with `RB_<type>_`, so that the C++
test application can address the parameters; the flag reaches nothing else. The labels stand in
three places: the `attrui` control on the top level (its `attr` and the head of its
`parameter_initial`), and in the unit's subpatcher the relay `set <label>` and the box
`param <label> ...`. Blanking them (`Box.erase`, `SubBox.erase`) maps the patch built with
`test` on and the one built with `test` off to the same patch: the same boxes in the same
places, the same lines in the top level and in every subpatcher, the same ports. And the two
calls fail together, with the same error.

The proof is a lockstep simulation. Erasure commutes with every operation of the script that
does not read a label (`addBox`, `addLine`, the ports an `rnbo~` box declares), so the steps of
`create_rnbo_patch` after the DSP unit map erased patchers to erased patchers; the parameter
loop keeps two states that agree up to labels in agreement (`extend_erase`, `addParams_erase`),
and so does `add_rnbo_object` (`addRnboObject_erase`).

## Main results

* `addParams_erase`: two runs of the parameter loop that differ only in `test` agree up to
  labels, raising included.
* `createRnboPatch_test_erase`: `create_rnbo_patch` with `test` on and with `test` off agree up
  to labels, raising included.
-/

namespace FaustRnbo

/-! ### Erasing the labels -/

/-- The patcher with every box mapped by `f`, and the same lines. -/
def Patcher.mapBoxes {β γ : Type} (f : β → γ) (p : Patcher β) : Patcher γ :=
  ⟨p.boxes.map f, p.lines⟩

/-- The label at the head of a list of atoms, blanked. -/
def blankLabel : List Atom → List Atom
  | .sym _ :: rest => .sym "" :: rest
  | atoms => atoms

/-- A subpatcher box with its parameter label blanked: the label of a relay `set <label>` and
of a box `param <label> ...`. -/
def SubBox.erase : SubBox → SubBox
  | .textbox (.sym head :: rest) =>
    .textbox (.sym head :: if head = "set" ∨ head = "param" then blankLabel rest else rest)
  | b => b

/-- A top-level box with its parameter labels blanked: the `attr` and the head of the
`parameter_initial` of an `attrui`, and the labels in the subpatcher of an `rnbo~` box. -/
def Box.erase : Box → Box
  | .attrui a => .attrui { a with attr := "", parameterInitial := blankLabel a.parameterInitial }
  | .rnbo r => .rnbo { r with subpatcher := r.subpatcher.mapBoxes SubBox.erase }
  | b => b

/-- The loop state with its labels blanked. -/
def ParamState.erase (s : ParamState) : ParamState :=
  ⟨s.patcher.mapBoxes Box.erase, s.subPatch.mapBoxes SubBox.erase, s.voicing⟩

section MapBoxes

variable {β γ : Type} (f : β → γ) (p : Patcher β)

@[simp] theorem mapBoxes_boxes : (p.mapBoxes f).boxes = p.boxes.map f := rfl

@[simp] theorem mapBoxes_lines : (p.mapBoxes f).lines = p.lines := rfl

@[simp] theorem mapBoxes_mk (bs : List β) (ls : List Line) :
    Patcher.mapBoxes f ⟨bs, ls⟩ = ⟨bs.map f, ls⟩ := rfl

theorem mapBoxes_addLine (src dst inlet outlet : Nat) :
    (p.addLine src dst inlet outlet).mapBoxes f = (p.mapBoxes f).addLine src dst inlet outlet :=
  rfl

end MapBoxes

/-- Two patchers that agree up to labels have as many boxes. -/
theorem length_eq_of_mapBoxes_eq {β γ : Type} {f : β → γ} {p₁ p₂ : Patcher β}
    (h : p₁.mapBoxes f = p₂.mapBoxes f) : p₁.boxes.length = p₂.boxes.length := by
  simpa using congrArg (fun p : Patcher γ => p.boxes.length) h

@[simp] theorem rnboPorts_erase (b : Box) : b.erase.rnboPorts = b.rnboPorts := by
  cases b <;> rfl

/-- Erasure keeps the ports every `rnbo~` box declares. -/
@[simp] theorem ports_mapBoxes_erase (p : Patcher Box) (k : Nat) :
    (p.mapBoxes Box.erase).ports k = p.ports k := by
  simp only [Patcher.ports, mapBoxes_boxes, List.getElem?_map]
  cases p.boxes[k]? <;> simp

/-! ### The boxes that carry a label -/

@[simp] theorem relay_erase (label : String) :
    (SubBox.textbox [.sym "set", .sym label]).erase = .textbox [.sym "set", .sym ""] := by
  simp [SubBox.erase, blankLabel]

@[simp] theorem paramText_erase (label : String) (rest : List Atom) :
    (SubBox.textbox (.sym "param" :: .sym label :: rest)).erase =
      .textbox (.sym "param" :: .sym "" :: rest) := by
  simp [SubBox.erase, blankLabel]

@[simp] theorem itemControl_erase (test : Bool) (item : ItemInfo) :
    (itemControl test item).erase = .attrui ⟨"", (declaredRange item).2.1,
      (declaredRange item).2.2, 1, [.sym "", .num (declaredRange item).1], 1⟩ := by
  simp [itemControl, Box.erase, blankLabel]

@[simp] theorem plain_erase (text : List Atom) : (Box.plain text).erase = Box.plain text := rfl

/-- The blocks of a parameter agree up to labels whatever the flag. -/
theorem paramSubBoxes_erase (midi test : Bool) (item : ItemInfo) :
    (paramSubBoxes midi test item).map SubBox.erase =
      (paramSubBoxes midi false item).map SubBox.erase := by
  simp [paramSubBoxes]

theorem paramTopBoxes_erase (test : Bool) (item : ItemInfo) :
    (paramTopBoxes test item).map Box.erase = (paramTopBoxes false item).map Box.erase := by
  unfold paramTopBoxes
  split <;> simp

/-! ### The parameter loop in lockstep -/

section Loop

variable {midi : Bool} {nvoices : Int} {rnbo codebox : Nat}

/-- **The step lemma.** One iteration on two states that agree up to labels, with either flag,
gives states that agree up to labels. -/
theorem extend_erase (test₁ test₂ : Bool) {s₁ s₂ : ParamState} (hs : s₁.erase = s₂.erase)
    (item : ItemInfo) :
    (s₁.extend ⟨midi, nvoices, test₁, rnbo, codebox⟩ item).erase =
      (s₂.extend ⟨midi, nvoices, test₂, rnbo, codebox⟩ item).erase := by
  simp only [ParamState.erase, ParamState.mk.injEq] at hs
  obtain ⟨hp, hsub, hv⟩ := hs
  have hl := length_eq_of_mapBoxes_eq hp
  have hsl := length_eq_of_mapBoxes_eq hsub
  simp only [Patcher.mapBoxes, Patcher.mk.injEq] at hp hsub
  simp only [ParamState.erase, ParamState.extend, Patcher.mapBoxes, List.map_append, hp.1, hp.2,
    hsub.1, hsub.2, hl, hsl, hv, paramTopBoxes_erase test₁, paramTopBoxes_erase test₂,
    paramSubBoxes_erase midi test₁, paramSubBoxes_erase midi test₂]

/-- **The run lemma.** Two runs of the parameter loop that differ only in the flag, from
states that agree up to labels, end in states that agree up to labels, or raise the same
error. -/
theorem addParams_erase (test₁ test₂ : Bool) :
    ∀ (items : List ItemInfo) {s₁ s₂ : ParamState}, s₁.erase = s₂.erase →
      (addParams ⟨midi, nvoices, test₁, rnbo, codebox⟩ items s₁).map ParamState.erase =
        (addParams ⟨midi, nvoices, test₂, rnbo, codebox⟩ items s₂).map ParamState.erase
  | [], _, _, hs => by simp [addParams, Except.map, hs]
  | item :: items, s₁, s₂, hs => by
    rw [addParams_cons, addParams_cons, addParam_eq, addParam_eq]
    cases stepCheck item
    · rfl
    · exact addParams_erase test₁ test₂ items (extend_erase test₁ test₂ hs item)

end Loop

/-! ### `add_rnbo_object` in lockstep -/

/-- **Lockstep over `Except`.** Two computations that agree up to `g₁` and `g₂`, each followed by
a continuation that maps values that agree to results that agree, agree: both raise the same
error, or both return results that agree. -/
theorem map_bind_of_map_eq {ε α₁ α₂ γ β₁ β₂ δ : Type} {x₁ : Except ε α₁} {x₂ : Except ε α₂}
    {g₁ : α₁ → γ} {g₂ : α₂ → γ} (hx : x₁.map g₁ = x₂.map g₂) {k₁ : α₁ → Except ε β₁}
    {k₂ : α₂ → Except ε β₂} {h₁ : β₁ → δ} {h₂ : β₂ → δ}
    (hk : ∀ a₁ a₂, g₁ a₁ = g₂ a₂ → (k₁ a₁).map h₁ = (k₂ a₂).map h₂) :
    (x₁.bind k₁).map h₁ = (x₂.bind k₂).map h₂ := by
  cases x₁ <;> cases x₂ <;>
    simp only [Except.map, Except.bind, Except.error.injEq, Except.ok.injEq, reduceCtorEq] at hx ⊢
  · rw [hx]
  · exact hk _ _ hx

theorem polyphonyStep_erase (midi : Bool) (nvoices : Int) (s : ParamState) :
    (polyphonyStep midi nvoices s).mapBoxes SubBox.erase = polyphonyStep midi nvoices s.erase := by
  unfold polyphonyStep
  simp only [ParamState.erase]
  split
  · cases s.voicing.isFreq <;> cases s.voicing.isGain <;>
      simp [addPolyphonyControl_eq, polyphonyBoxes, SubBox.erase, Patcher.mapBoxes]
  · rfl

theorem setSubpatcher_erase (p : Patcher Box) (k : Nat) (r : Rnbo) (sub : Patcher SubBox) :
    (p.setSubpatcher k r sub).mapBoxes Box.erase =
      (p.mapBoxes Box.erase).setSubpatcher k r (sub.mapBoxes SubBox.erase) := by
  simp [Patcher.setSubpatcher, Patcher.mapBoxes, List.map_set, Box.erase]

/-- **`add_rnbo_object` in lockstep.** On patchers that agree up to labels, with either flag,
`add_rnbo_object` returns patchers that agree up to labels and the same id, or raises the same
error. -/
theorem addRnboObject_erase {p₁ p₂ : Patcher Box}
    (hp : p₁.mapBoxes Box.erase = p₂.mapBoxes Box.erase) (dspName codeboxCode : String)
    (items : List ItemInfo) (midi : Bool) (nvoices : Int) (test₁ test₂ : Bool)
    (numInputs numOutputs : Nat) :
    (addRnboObject p₁ dspName codeboxCode items midi nvoices test₁ numInputs numOutputs).map
        (Prod.map (Patcher.mapBoxes Box.erase) id) =
      (addRnboObject p₂ dspName codeboxCode items midi nvoices test₂ numInputs numOutputs).map
        (Prod.map (Patcher.mapBoxes Box.erase) id) := by
  have hl := length_eq_of_mapBoxes_eq hp
  simp only [addRnboObject, bind, Patcher.addBox, Patcher.empty, List.nil_append,
    List.length_nil, hl]
  cases generateIoInfo midi numInputs numOutputs with
  | error e => rfl
  | ok io =>
    refine map_bind_of_map_eq (addParams_erase test₁ test₂ items ?_) fun s₁ s₂ hs => ?_
    · simp only [Patcher.mapBoxes, Patcher.mk.injEq] at hp
      simp [ParamState.erase, Patcher.mapBoxes, hp.1, hp.2]
    · have hpat : s₁.patcher.mapBoxes Box.erase = s₂.patcher.mapBoxes Box.erase :=
        congrArg ParamState.patcher hs
      simp only [pure, Except.pure, Except.map, Prod.map, id, setSubpatcher_erase,
        polyphonyStep_erase, hs, hpat]

/-! ### The steps after the DSP unit -/

section Steps

variable (p : Patcher Box)

@[simp] theorem textbox_erase (text : List Atom) (i o : Option Nat) :
    (Box.textbox text i o).erase = .textbox text i o := rfl

@[simp] theorem message_erase (text : List Atom) : (Box.message text).erase = .message text := rfl

@[simp] theorem comment_erase : Box.comment.erase = .comment := rfl

theorem connectMidi_erase (rnbo midiIn midiOut : Nat) :
    (connectMidi p rnbo midiIn midiOut).mapBoxes Box.erase =
      connectMidi (p.mapBoxes Box.erase) rnbo midiIn midiOut := by
  simp only [connectMidi, mapBoxes_addLine, ports_mapBoxes_erase]

theorem connectDspEffect_erase (dspRnbo effectRnbo dspNumOutputs effectNumInputs : Nat) :
    (connectDspEffect p dspRnbo effectRnbo dspNumOutputs effectNumInputs).mapBoxes Box.erase =
      connectDspEffect (p.mapBoxes Box.erase) dspRnbo effectRnbo dspNumOutputs
        effectNumInputs := by
  simp [connectDspEffect_eq, Patcher.mapBoxes]

theorem addMidiObjects_erase (rnbo : Nat) (midi : Bool) :
    (addMidiObjects p rnbo midi).1.mapBoxes Box.erase =
        (addMidiObjects (p.mapBoxes Box.erase) rnbo midi).1 ∧
      (addMidiObjects p rnbo midi).2 = (addMidiObjects (p.mapBoxes Box.erase) rnbo midi).2 := by
  cases midi <;> simp [addMidiObjects, connectMidi_erase, Patcher.addBox]

/-- Boxes that declare no ports leave what `ports` reads as it was. -/
theorem ports_append_of_none {more : List Box} (h : ∀ b ∈ more, b.rnboPorts = none)
    (ls : List Line) (k : Nat) : (⟨p.boxes ++ more, ls⟩ : Patcher Box).ports k = p.ports k := by
  simp only [Patcher.ports]
  by_cases hk : k < p.boxes.length
  · rw [List.getElem?_append_left hk]
  · rw [List.getElem?_eq_none (by omega : p.boxes.length ≤ k),
      List.getElem?_append_right (by omega)]
    cases hm : more[k - p.boxes.length]? with
    | none => rfl
    | some b => simp [h b (List.mem_iff_getElem?.2 ⟨_, hm⟩)]

/-- `add_compile_test` reads the ports of the unit before the boxes it adds, which declare
none. -/
theorem addCompileTest_eq_ports (rnbo : Nat) (exportPath cppFilename : String) :
    addCompileTest p rnbo exportPath cppFilename =
      ⟨p.boxes ++ compileTestBoxes exportPath cppFilename,
        p.lines ++ compileTestLines p.boxes.length rnbo (p.ports rnbo).2⟩ := by
  have hp := @ports_append_of_none p (compileTestBoxes exportPath cppFilename)
    (by simp [compileTestBoxes, Box.plain, Box.rnboPorts]) [] rnbo
  simp [addCompileTest, compileTestBoxes, compileTestLines, Patcher.addBox, Patcher.addLine,
    Patcher.ports] at hp ⊢
  exact congrArg (fun q => q.2 - 1) hp

theorem addCompileTest_erase (rnbo : Nat) (exportPath cppFilename : String) :
    (addCompileTest p rnbo exportPath cppFilename).mapBoxes Box.erase =
      addCompileTest (p.mapBoxes Box.erase) rnbo exportPath cppFilename := by
  rw [addCompileTest_eq_ports, addCompileTest_eq_ports, ports_mapBoxes_erase]
  simp [compileTestBoxes]

theorem createAudioOutput_erase (rnbo numOutputs : Nat) :
    (createAudioOutput p rnbo numOutputs).mapBoxes Box.erase =
      createAudioOutput (p.mapBoxes Box.erase) rnbo numOutputs := by
  simp [createAudioOutput_eq, Patcher.mapBoxes]

theorem createAudioInput_erase (rnbo numInputs : Nat) :
    (createAudioInput p rnbo numInputs).mapBoxes Box.erase =
      createAudioInput (p.mapBoxes Box.erase) rnbo numInputs := by
  simp [createAudioInput_eq, Patcher.mapBoxes]

theorem addAudioOutput_erase (dspRnbo dspNumOutputs : Nat) (effect : Option EffectUnit)
    (effectRnbo : Option Nat) :
    (addAudioOutput p dspRnbo dspNumOutputs effect effectRnbo).mapBoxes Box.erase =
      addAudioOutput (p.mapBoxes Box.erase) dspRnbo dspNumOutputs effect effectRnbo := by
  unfold addAudioOutput
  split <;> exact createAudioOutput_erase _ _ _

end Steps

/-- The effect block on patchers that agree up to labels: the effect unit is built with the
flag off in both runs. -/
theorem addEffect_erase {p₁ p₂ : Patcher Box}
    (hp : p₁.mapBoxes Box.erase = p₂.mapBoxes Box.erase)
    (dspRnbo dspNumOutputs : Nat) (midi : Bool) (midiBoxes : Option (Nat × Nat))
    (effect : Option EffectUnit) :
    (addEffect p₁ dspRnbo dspNumOutputs midi midiBoxes effect).map
        (Prod.map (Patcher.mapBoxes Box.erase) id) =
      (addEffect p₂ dspRnbo dspNumOutputs midi midiBoxes effect).map
        (Prod.map (Patcher.mapBoxes Box.erase) id) := by
  cases effect with
  | none => simp [addEffect, pure, Except.pure, Except.map, hp]
  | some e =>
    simp only [addEffect, bind]
    refine map_bind_of_map_eq (addRnboObject_erase hp _ _ _ _ _ false false _ _) ?_
    rintro ⟨q₁, k₁⟩ ⟨q₂, k₂⟩ h
    simp only [Prod.map, id, Prod.mk.injEq] at h
    obtain ⟨hq, rfl⟩ := h
    cases midiBoxes <;>
      simp [pure, Except.pure, Except.map, connectMidi_erase, connectDspEffect_erase, hq]

/-- **The test flag only changes labels.** For all inputs, `create_rnbo_patch` with `test` on and
with `test` off either both raise the same error, or both build patches that are equal once the
parameter labels are blanked: the same boxes, ports and lines on the top level and in the
subpatcher of every unit. -/
theorem createRnboPatch_test_erase (dspName exportPath cppFilename dspCodeboxCode : String)
    (dspItemsInfoList : List ItemInfo) (dspNumInputs dspNumOutputs : Nat) (midi : Bool)
    (nvoices : Int) (effect : Option EffectUnit) (compile : Bool) (test₁ test₂ : Bool) :
    (createRnboPatch dspName exportPath cppFilename dspCodeboxCode dspItemsInfoList dspNumInputs
        dspNumOutputs midi nvoices effect compile test₁).map (Patcher.mapBoxes Box.erase) =
      (createRnboPatch dspName exportPath cppFilename dspCodeboxCode dspItemsInfoList
        dspNumInputs dspNumOutputs midi nvoices effect compile test₂).map
        (Patcher.mapBoxes Box.erase) := by
  simp only [createRnboPatch, bind]
  refine map_bind_of_map_eq (addRnboObject_erase rfl _ _ _ _ _ test₁ test₂ _ _) ?_
  rintro ⟨p₁, k⟩ ⟨p₂, k'⟩ h
  simp only [Prod.map, id, Prod.mk.injEq] at h
  obtain ⟨hp, rfl⟩ := h
  obtain ⟨hm₁, hs₁⟩ := addMidiObjects_erase p₁ k midi
  obtain ⟨hm₂, hs₂⟩ := addMidiObjects_erase p₂ k midi
  rw [hs₁, hs₂, hp]
  refine map_bind_of_map_eq (addEffect_erase (hm₁.trans (hp ▸ hm₂.symm)) _ _ _ _ _) ?_
  rintro ⟨q₁, e⟩ ⟨q₂, e'⟩ h
  simp only [Prod.map, id, Prod.mk.injEq] at h
  obtain ⟨hq, rfl⟩ := h
  split_ifs <;> simp [pure, Except.pure, Except.map, createAudioInput_erase, addAudioOutput_erase,
    addCompileTest_erase, hq]

end FaustRnbo
