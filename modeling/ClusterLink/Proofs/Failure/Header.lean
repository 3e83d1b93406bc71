import ClusterLink.Failure.Status
import ClusterLink.Proofs.Text.Bytes

/-!
# Header values

The text of a header is that of the first value of its key, and only if every byte of that value is
a visible character, a space or a tab (`Metadata.header?_eq_some_iff`). If a header has two keys,
the value of the second one is looked at only if the first one has none that can be read
(`Metadata.firstHeader?_eq_some_iff`).

A text is sent as the bytes of its characters. What can be read of them are the texts of plain
characters, and they are read as they were sent (`Metadata.text?_toUTF8_eq_some_iff`): any other
character is sent as bytes beyond ASCII, or is a control character.
-/

namespace ClusterLink.Metadata

/-! ## Plain characters -/

/-- **The code of a plain character**: a visible one of ASCII, the space, or the tab. -/
def IsPlain (n : Nat) : Prop := 0x20 ≤ n ∧ n ≤ 0x7e ∨ n = 0x09

instance (n : Nat) : Decidable (IsPlain n) := inferInstanceAs (Decidable (_ ∨ _))

theorem isReadable_iff {b : UInt8} : isReadable b = true ↔ IsPlain b.toNat := by
  simp only [isReadable, Bool.or_eq_true, Bool.and_eq_true, decide_eq_true_eq, beq_iff_eq, IsPlain,
    UInt8.le_iff_toNat_le, ← UInt8.toNat_inj]
  rfl

theorem isPlain_of_isDigit {c : Char} (h : c.isDigit = true) : IsPlain c.toNat := by
  have hrange : 48 ≤ c.toNat ∧ c.toNat ≤ 57 := Char.isDigit_iff_toNat.1 h
  unfold IsPlain
  omega

theorem isPlain_of_all {cs : List Char} (h : cs.all (fun c => decide (IsPlain c.toNat)) = true) :
    ∀ c ∈ cs, IsPlain c.toNat :=
  fun c hc => of_decide_eq_true (List.all_eq_true.1 h c hc)

/-- **The bytes spell the text**: they are the codes of its characters, which are plain. -/
structure Spells (value : List UInt8) (text : List Char) : Prop where
  codes_eq : value.map UInt8.toNat = text.map Char.toNat
  isPlain : ∀ c ∈ text, IsPlain c.toNat

theorem toNat_ofNat_of_isPlain {n : Nat} (h : IsPlain n) : (Char.ofNat n).toNat = n := by
  have hvalid : n.isValidChar := .inl (by unfold IsPlain at h; omega)
  rw [Char.ofNat, dif_pos hvalid]
  rfl

theorem Spells.isReadable {value : List UInt8} {text : List Char} (h : Spells value text) :
    ∀ b ∈ value, isReadable b = true := by
  intro b hb
  obtain ⟨c, hc, hcode⟩ := List.mem_map.1 (h.codes_eq ▸ List.mem_map_of_mem hb)
  exact isReadable_iff.2 (hcode ▸ h.isPlain c hc)

/-- **The text of a value** is the one that it spells. -/
theorem text?_eq_some_iff {value : List UInt8} {text : List Char} :
    text? value = some text ↔ Spells value text := by
  unfold text?
  constructor
  · intro h
    split at h
    · rename_i hall
      cases h
      have hplain : ∀ b ∈ value, IsPlain b.toNat := fun b hb =>
        isReadable_iff.1 (List.all_eq_true.1 hall b hb)
      refine ⟨?_, fun c hc => ?_⟩
      · rw [List.map_map]
        exact List.map_congr_left fun b hb => (toNat_ofNat_of_isPlain (hplain b hb)).symm
      · obtain ⟨b, hb, rfl⟩ := List.mem_map.1 hc
        rw [toNat_ofNat_of_isPlain (hplain b hb)]
        exact hplain b hb
    · cases h
  · intro h
    have htext : value.map (fun b => Char.ofNat b.toNat) = text := by
      rw [← Function.comp_def, ← List.map_map, h.codes_eq, List.map_map]
      simp [Function.comp_def]
    rw [if_pos (List.all_eq_true.2 h.isReadable), htext]

/-! ## Sent texts -/

/-- A plain character is sent as its code. -/
theorem utf8EncodeChar_of_isPlain {c : Char} (h : IsPlain c.toNat) :
    (String.utf8EncodeChar c).map UInt8.toNat = [c.toNat] := by
  have hle : c.toNat ≤ 0x7f := by
    unfold IsPlain at h
    omega
  rw [Text.utf8EncodeChar_of_le hle, List.map_singleton,
    UInt8.toNat_ofNat_of_lt' (Nat.lt_of_le_of_lt hle (by decide))]

/-- Any other character is sent with a byte that cannot be read: a control character as its code,
and one beyond ASCII as bytes beyond ASCII. -/
theorem exists_not_isReadable {c : Char} (h : ¬IsPlain c.toNat) :
    ∃ b ∈ String.utf8EncodeChar c, isReadable b = false := by
  have hread : ∀ b : UInt8, ¬IsPlain b.toNat → isReadable b = false := fun b hb =>
    Bool.eq_false_iff.2 (mt isReadable_iff.1 hb)
  by_cases hle : c.toNat ≤ 0x7f
  · rw [Text.utf8EncodeChar_of_le hle]
    refine ⟨_, List.mem_singleton_self _, hread _ ?_⟩
    rwa [UInt8.toNat_ofNat_of_lt' (Nat.lt_of_le_of_lt hle (by decide))]
  · obtain ⟨b, hb⟩ := List.exists_mem_of_ne_nil _ (String.utf8EncodeChar_ne_nil (c := c))
    have hge := Text.le_of_mem_utf8EncodeChar (Nat.lt_of_not_le hle) hb
    refine ⟨b, hb, hread b ?_⟩
    unfold IsPlain
    omega

/-- **What is read of a text that was sent** is that text, if all its characters are plain. -/
theorem text?_toUTF8_eq_some_iff {s : String} {text : List Char} :
    text? s.toUTF8.data.toList = some text ↔ text = s.toList ∧ ∀ c ∈ s.toList,
      IsPlain c.toNat := by
  have hcodes : (∀ c ∈ s.toList, IsPlain c.toNat) →
      s.toUTF8.data.toList.map UInt8.toNat = s.toList.map Char.toNat := by
    intro hplain
    rw [Text.toUTF8_eq_flatMap, List.map_flatMap, List.map_eq_flatMap]
    exact List.flatMap_congr fun c hc => utf8EncodeChar_of_isPlain (hplain c hc)
  rw [text?_eq_some_iff]
  constructor
  · intro h
    have hplain : ∀ c ∈ s.toList, IsPlain c.toNat := by
      intro c hc
      by_contra hnot
      obtain ⟨b, hb, hread⟩ := exists_not_isReadable hnot
      have hmem : b ∈ s.toUTF8.data.toList :=
        Text.toUTF8_eq_flatMap s ▸ List.mem_flatMap.2 ⟨c, hc, hb⟩
      cases hread.symm.trans (h.isReadable b hmem)
    refine ⟨?_, hplain⟩
    have hinj : Function.Injective Char.toNat := fun _ _ => Char.toNat_inj.1
    exact List.map_injective_iff.2 hinj (h.codes_eq.symm.trans (hcodes hplain))
  · rintro ⟨rfl, hplain⟩
    exact ⟨hcodes hplain, hplain⟩

/-! ## Look-ups -/

/-- **The first value of a key.** -/
def IsFirst (m : Metadata) (key : String) (value : List UInt8) : Prop :=
  ∃ before name after, m = before ++ (name, value) :: after
    ∧ Text.equalIgnoringCase name key = true
    ∧ ∀ entry ∈ before, Text.equalIgnoringCase entry.1 key = false

/-- **The header says the text**: that is what the first value of its key spells. -/
def Says (m : Metadata) (key : String) (text : List Char) : Prop :=
  ∃ value, m.IsFirst key value ∧ Spells value text

/-- **One of two headers says the text**: the first one, or the second one if the first one cannot
be read. -/
def SaysUnder (m : Metadata) (key alternative : String) (text : List Char) : Prop :=
  m.Says key text ∨ (∀ other, ¬m.Says key other) ∧ m.Says alternative text

variable {m : Metadata} {key alternative : String} {text : List Char}

theorem first?_eq_some_iff {value : List UInt8} :
    m.first? key = some value ↔ m.IsFirst key value := by
  rw [first?, Option.map_eq_some_iff]
  simp only [List.find?_eq_some_iff_append, Bool.not_eq_true']
  constructor
  · rintro ⟨⟨name, _⟩, ⟨hname, before, after, hm, hbefore⟩, rfl⟩
    exact ⟨before, name, after, hm, hname, hbefore⟩
  · rintro ⟨before, name, after, hm, hname, hbefore⟩
    exact ⟨(name, value), ⟨hname, before, after, hm, hbefore⟩, rfl⟩

theorem header?_cons {name : String} {value : List UInt8} : header? ((name, value) :: m) key
    = if Text.equalIgnoringCase name key then text? value else m.header? key := by
  simp only [header?, first?, List.find?_cons]
  split <;> simp_all

theorem header?_eq_some_iff : m.header? key = some text ↔ m.Says key text := by
  rw [header?, Option.bind_eq_some_iff]
  simp only [first?_eq_some_iff, text?_eq_some_iff, Says]

theorem firstHeader?_eq_some_iff :
    m.firstHeader? [key, alternative] = some text ↔ m.SaysUnder key alternative text := by
  have hnone : m.header? key = none ↔ ∀ other, ¬m.Says key other := by
    simp only [← header?_eq_some_iff, Option.eq_none_iff_forall_ne_some, ne_eq]
  rw [SaysUnder, ← hnone, ← header?_eq_some_iff, ← header?_eq_some_iff, firstHeader?,
    List.findSome?_cons, List.findSome?_singleton]
  cases m.header? key with
  | none => simp
  | some other => simp

/-- A header says one text. -/
theorem SaysUnder.text_unique {other : List Char} (h : m.SaysUnder key alternative text)
    (hother : m.SaysUnder key alternative other) : text = other :=
  Option.some.inj ((firstHeader?_eq_some_iff.2 h).symm.trans (firstHeader?_eq_some_iff.2 hother))

end ClusterLink.Metadata
