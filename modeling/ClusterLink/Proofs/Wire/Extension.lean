import ClusterLink.Proofs.Wire.Field
import ClusterLink.Wire.Features

/-!
# Replies of newer nodes

A newer node may send fields that an older client does not know, at any place of a reply, and
replies may be sent in parts that are put one after the other. Neither is lost on the client.

Every record is read alike: its bytes are divided into fields, which are taken in one by one
(`Wire.readInto`). So what bytes do when they follow others depends only on what has been taken in
so far (`Wire.readInto_append`). A field that is not known changes nothing when it is taken in, and
a record inside another is taken in as a whole; by induction on the place of the change, a field
that is not known changes nothing wherever it stands (`Wire.Inserts.read_eq`). Of two replies one
after the other, the second one adds to the lists of the first and replaces its version if it tells
one (`Wire.replies_extensible`).
-/

namespace ClusterLink.Wire

variable {σ : Type} {step : σ → Field → Option σ} {below number : Nat} {f f' : Field}
  {fs : List Field} {a b u u' : List UInt8}

/-! ## Taking in a message -/

/-- **Takes in the fields of a message**, one after the other. -/
def readInto (levels : Nat) (step : σ → Field → Option σ) (r : σ)
    (bs : List UInt8) : Option σ :=
  (readFields levels bs).bind (·.foldlM step r)

/-- A message in front is taken in first. -/
theorem readInto_append (h : IsMessage (below + 1) fs a) (b : List UInt8) (r : σ) :
    readInto (below + 1) step r (a ++ b)
      = (fs.foldlM step r).bind fun r => readInto (below + 1) step r b := by
  unfold readInto
  rw [readFields_append h]
  cases readFields (below + 1) b with
  | none => simp
  | some gs => simp [List.foldlM_append]

/-- What follows is taken in on top of what was read. -/
theorem readInto_append_of_eq_some {r r' : σ} (h : readInto (below + 1) step r a = some r')
    (b : List UInt8) : readInto (below + 1) step r (a ++ b) = readInto (below + 1) step r' b := by
  obtain ⟨fs, hfs, hfold⟩ := Option.bind_eq_some_iff.1 h
  rw [readInto_append (readFields_eq_some_iff.1 hfs), hfold, Option.bind_some]

theorem readInto_field (h : IsField (below + 1) f u) (b : List UInt8) (r : σ) :
    readInto (below + 1) step r (u ++ b)
      = (step r f).bind fun r => readInto (below + 1) step r b := by
  rw [readInto_append (.single h)]
  simp

/-- A field that changes nothing may be left out. -/
theorem readInto_insert (ha : IsMessage (below + 1) fs a) (hu : IsField (below + 1) f u)
    (hstep : ∀ r, step r f = some r) (b : List UInt8) (r : σ) :
    readInto (below + 1) step r (a ++ (u ++ b)) = readInto (below + 1) step r (a ++ b) := by
  rw [readInto_append ha, readInto_append ha]
  refine Option.bind_congr fun r _ => ?_
  rw [readInto_field hu, hstep, Option.bind_some]

/-- A field may be replaced by one that is taken in alike. -/
theorem readInto_replace (ha : IsMessage (below + 1) fs a) (hu : IsField (below + 1) f u)
    (hu' : IsField (below + 1) f' u') (hstep : ∀ r, step r f' = step r f)
    (b : List UInt8) (r : σ) :
    readInto (below + 1) step r (a ++ (u' ++ b)) = readInto (below + 1) step r (a ++ (u ++ b)) := by
  rw [readInto_append ha, readInto_append ha]
  refine Option.bind_congr fun r _ => ?_
  rw [readInto_field hu, readInto_field hu', hstep]

/-- Taking in fields commutes with a change of the record that taking in each of them commutes
with. -/
theorem foldlM_map (change : σ → σ)
    (hstep : ∀ r, ∀ f ∈ fs, step (change r) f = (step r f).map change) (r : σ) :
    fs.foldlM step (change r) = (fs.foldlM step r).map change := by
  induction fs generalizing r with
  | nil => rfl
  | cons f fs ih =>
    rw [List.foldlM_cons, List.foldlM_cons, hstep r f (List.mem_cons_self ..)]
    cases step r f with
    | none => rfl
    | some r => exact ih (fun r g hg => hstep r g (List.mem_cons_of_mem _ hg)) r

/-! ## The kinds of messages -/

/-- **The kinds of messages** that replies are made of. -/
inductive MessageKind where
  | memberTable
  | member
  | address
  | methodTable
  | method

namespace MessageKind

/-- What is read of a message. -/
def Record : MessageKind → Type
  | .memberTable => MemberTable
  | .member => MemberRecord
  | .address => AddressRecord
  | .methodTable => MethodTable
  | .method => SupportedMethod

/-- How many levels of groups and messages may be opened in a message, where it stands in a
reply. -/
def levels : MessageKind → Nat
  | .memberTable | .methodTable => nestingLimit
  | .member | .method => nestingLimit - 1
  | .address => nestingLimit - 2

/-- The last number of a field that is known. They are numbered from one. -/
def lastNumber : MessageKind → Nat
  | .memberTable => 1
  | .member => 5
  | .address | .methodTable => 2
  | .method => 3

/-- The kind of message that a field holds. -/
def part? : MessageKind → Nat → Option MessageKind
  | .memberTable, 1 => some .member
  | .member, 5 => some .address
  | .methodTable, 1 => some .method
  | _, _ => none

/-- Takes in one field. -/
def apply : (kind : MessageKind) → kind.Record → Field → Option kind.Record
  | .memberTable => MemberTable.apply
  | .member => MemberRecord.apply (nestingLimit - 1)
  | .address => AddressRecord.apply
  | .methodTable => applyMethodTableField
  | .method => applyMethodField

/-- **Takes in a message**, beginning with what is there already. -/
def read (kind : MessageKind) (r : kind.Record) (bs : List UInt8) : Option kind.Record :=
  readInto kind.levels kind.apply r bs

variable {kind part : MessageKind}

theorem exists_levels (kind : MessageKind) : ∃ below, kind.levels = below + 1 := by
  cases kind <;> exact ⟨_, rfl⟩

/-- A field that is not known changes nothing. -/
theorem apply_of_lastNumber_lt (h : kind.lastNumber < f.number) (r : kind.Record) :
    kind.apply r f = some r := by
  obtain ⟨number, payload⟩ := f
  cases kind <;> simp only [lastNumber] at h <;>
    simp only [apply, MemberTable.apply, MemberRecord.apply, AddressRecord.apply,
      applyMethodTableField, applyMethodField] <;>
    split <;> first | omega | rfl

/-- A message inside another is taken in as a whole. -/
theorem apply_part (hpart : kind.part? number = some part)
    (h : ∀ r, part.read r b = part.read r a) (r : kind.Record) :
    kind.apply r ⟨number, .bytes b⟩ = kind.apply r ⟨number, .bytes a⟩ := by
  unfold part? at hpart
  split at hpart <;> cases hpart
  · have hdecode :
        MemberRecord.decode (nestingLimit - 1) b = MemberRecord.decode (nestingLimit - 1) a :=
      h {}
    simp only [apply, MemberTable.apply, hdecode]
    rfl
  · have hmerge : ∀ r, AddressRecord.merge (nestingLimit - 1 - 1) r b
        = AddressRecord.merge (nestingLimit - 1 - 1) r a := h
    simp only [apply, MemberRecord.apply, hmerge]
    rfl
  · have hdecode : decodeMethod (nestingLimit - 1) b = decodeMethod (nestingLimit - 1) a :=
      h ⟨"", "", []⟩
    simp only [apply, applyMethodTableField, hdecode]
    rfl

end MessageKind

/-! ## Fields that are not known -/

/-- **The second message is the first one with one field more**, which is not known where it stands.
It stands behind whole fields of the message itself, or of a message that one of its fields holds.
The length in front of such a message is that of what it holds now. -/
inductive Inserts : MessageKind → List UInt8 → List UInt8 → Prop where
  | here {kind : MessageKind} {fs : List Field} {f : Field} {before u after : List UInt8}
    (hbefore : IsMessage kind.levels fs before) (hfield : IsField kind.levels f u)
    (hunknown : kind.lastNumber < f.number) : Inserts kind (before ++ after)
      (before ++ (u ++ after))
  | inside {kind part : MessageKind} {fs : List Field} {number : Nat}
    {before k length length' body body' after : List UInt8}
    (hbefore : IsMessage kind.levels fs before) (hkey : IsKey k number .bytes)
    (hpart : kind.part? number = some part) (hlength : IsVarint length body.length)
    (hlength' : IsVarint length' body'.length) (h : Inserts part body body') :
    Inserts kind (before ++ (k ++ (length ++ body) ++ after))
      (before ++ (k ++ (length' ++ body') ++ after))

/-- **A field that is not known changes nothing**, wherever it stands. -/
theorem Inserts.read_eq {kind : MessageKind} (h : Inserts kind a b) (r : kind.Record) :
    kind.read r b = kind.read r a := by
  induction h with
  | @here kind _ _ _ _ _ hbefore hfield hunknown =>
    obtain ⟨below, hlevels⟩ := kind.exists_levels
    rw [hlevels] at hbefore hfield
    unfold MessageKind.read
    rw [hlevels]
    exact readInto_insert hbefore hfield (MessageKind.apply_of_lastNumber_lt hunknown) _ r
  | @inside kind part _ _ _ _ _ _ _ _ _ hbefore hkey hpart hlength hlength' _ ih =>
    obtain ⟨below, hlevels⟩ := kind.exists_levels
    rw [hlevels] at hbefore
    unfold MessageKind.read
    rw [hlevels]
    exact readInto_replace hbefore (.plain hkey (.bytes hlength)) (.plain hkey (.bytes hlength'))
      (MessageKind.apply_part hpart ih) _ r

/-! ## Replies one after the other -/

/-- A member table that follows others adds its members. -/
theorem MemberTable.foldlM_apply (before : List MemberRecord) (fs : List Field) (t : MemberTable) :
    fs.foldlM apply ⟨before ++ t.members⟩ = (fs.foldlM apply t).map fun u =>
      ⟨before ++ u.members⟩ := by
  refine foldlM_map (fun u : MemberTable => ⟨before ++ u.members⟩) (fun r f _ => ?_) t
  obtain ⟨number, payload⟩ := f
  unfold apply
  split
  · split
    · simp [Function.comp_def, List.append_assoc]
    · rfl
  · rfl

/-- A capabilities reply that follows others adds its methods. -/
theorem foldlM_applyMethodTableField (before : List SupportedMethod) (fs : List Field)
    (t : MethodTable) : fs.foldlM applyMethodTableField { t with methods := before ++ t.methods }
      = (fs.foldlM applyMethodTableField t).map fun u =>
        { u with methods := before ++ u.methods } := by
  refine foldlM_map (fun u : MethodTable => { u with methods := before ++ u.methods })
    (fun r f _ => ?_) t
  obtain ⟨number, payload⟩ := f
  unfold applyMethodTableField
  split
  · split
    · simp [Function.comp_def, List.append_assoc]
    · rfl
  · simp [Function.comp_def]
  · rfl

/-- Fields that tell no version keep the one there is. -/
theorem foldlM_of_no_version (version : String) (h : ∀ f ∈ fs, f.number ≠ 2)
    (t : MethodTable) : fs.foldlM applyMethodTableField { t with version }
      = (fs.foldlM applyMethodTableField t).map fun u => { u with version } := by
  refine foldlM_map (fun u : MethodTable => { u with version }) (fun r f hf => ?_) t
  have hnumber := h f hf
  unfold applyMethodTableField
  split
  · split
    · simp [Function.comp_def]
    · rfl
  · contradiction
  · rfl

/-- Of fields that tell a version, it does not matter which one there was. -/
theorem foldlM_of_version (version : String) (h : ∃ f ∈ fs, f.number = 2) (t : MethodTable) :
    fs.foldlM applyMethodTableField { t with version } = fs.foldlM applyMethodTableField t := by
  induction fs generalizing t with
  | nil => simp at h
  | cons f fs ih =>
    rw [List.foldlM_cons, List.foldlM_cons]
    by_cases hnumber : f.number = 2
    · have hstep : applyMethodTableField { t with version } f = applyMethodTableField t f := by
        simp only [applyMethodTableField, hnumber]
      rw [hstep]
    · have hstep := foldlM_of_no_version version (List.forall_mem_singleton.2 hnumber) t
      have hfs : ∃ g ∈ fs, g.number = 2 := by
        obtain ⟨g, hg, htwo⟩ := h
        rcases List.mem_cons.1 hg with rfl | hg
        · contradiction
        · exact ⟨g, hg, htwo⟩
      simp only [List.foldlM_cons, List.foldlM_nil, bind_pure] at hstep
      rw [hstep]
      cases applyMethodTableField t f with
      | none => rfl
      | some t => exact ih hfs t

/-- **The bytes carry a version**: they are a capabilities reply with a field for it. -/
def CarriesVersion (bs : List UInt8) : Prop :=
  ∃ fs, IsMessage nestingLimit fs bs ∧ ∃ f ∈ fs, f.number = 2

/-- **Member tables one after the other** are one table of the members of both. -/
theorem MemberTable.decode_append {t t' : MemberTable} (ha : decode a = some t)
    (hb : decode b = some t') : decode (a ++ b) = some ⟨t.members ++ t'.members⟩ := by
  obtain ⟨fs, hfs, hfold⟩ := Option.bind_eq_some_iff.1 hb
  have hadd := foldlM_apply t.members fs {}
  rw [hfold, Option.map_some, List.append_nil] at hadd
  calc decode (a ++ b) = readInto nestingLimit apply t b := readInto_append_of_eq_some ha b
    _ = fs.foldlM apply t := by rw [readInto, hfs, Option.bind_some]
    _ = some ⟨t.members ++ t'.members⟩ := hadd

/-- **Capabilities replies one after the other** are one reply with the methods of both, and with
the version of the second one if it tells one. -/
theorem decodeMethodTable_append {s s' : MethodTable} (ha : decodeMethodTable a = some s)
    (hb : decodeMethodTable b = some s') : ∃ version,
    decodeMethodTable (a ++ b) = some ⟨s.methods ++ s'.methods, version⟩
      ∧ (CarriesVersion b → version = s'.version)
      ∧ (¬CarriesVersion b → version = s.version) := by
  obtain ⟨fs, hfs, hfold⟩ := Option.bind_eq_some_iff.1 hb
  have hread : decodeMethodTable (a ++ b) = fs.foldlM applyMethodTableField s := by
    rw [show decodeMethodTable (a ++ b) = readInto nestingLimit applyMethodTableField s b from
      readInto_append_of_eq_some ha b, readInto, hfs, Option.bind_some]
  have hadd := foldlM_applyMethodTableField s.methods fs ⟨[], s.version⟩
  rw [List.append_nil] at hadd
  by_cases hversion : ∃ f ∈ fs, f.number = 2
  · have hcarries : CarriesVersion b := ⟨fs, readFields_eq_some_iff.1 hfs, hversion⟩
    have hnew := foldlM_of_version s.version hversion ⟨[], ""⟩
    rw [hnew, hfold] at hadd
    exact ⟨s'.version, hread.trans hadd, fun _ => rfl, fun h => absurd hcarries h⟩
  · have hcarries : ¬CarriesVersion b := by
      rintro ⟨gs, hgs, hnumber⟩
      cases hfs.symm.trans (readFields_eq_some_iff.2 hgs)
      exact hversion hnumber
    have hold := foldlM_of_no_version s.version
      (fun f hf hnumber => hversion ⟨f, hf, hnumber⟩) ⟨[], ""⟩
    rw [hold, hfold] at hadd
    exact ⟨s.version, hread.trans hadd, fun h => absurd h hcarries, fun _ => rfl⟩

/-- **Replies can be extended.** Member tables and capabilities replies may be sent in parts, one
after the other, and fields that are not known may be added at any place; the client reads what it
knows. -/
theorem replies_extensible (a b : List UInt8) :
    (∀ t t', MemberTable.decode a = some t → MemberTable.decode b = some t' →
        MemberTable.decode (a ++ b) = some ⟨t.members ++ t'.members⟩)
      ∧ (∀ s s', decodeMethodTable a = some s → decodeMethodTable b = some s' → ∃ version,
        decodeMethodTable (a ++ b) = some ⟨s.methods ++ s'.methods, version⟩
          ∧ (CarriesVersion b → version = s'.version)
          ∧ (¬CarriesVersion b → version = s.version))
      ∧ (Inserts .memberTable a b → MemberTable.decode b = MemberTable.decode a)
      ∧ (Inserts .methodTable a b → decodeMethodTable b = decodeMethodTable a) := by
  refine ⟨fun t t' => MemberTable.decode_append, fun s s' => decodeMethodTable_append,
    fun h => ?_, fun h => ?_⟩
  · exact h.read_eq ({} : MemberTable)
  · exact h.read_eq (⟨[], ""⟩ : MethodTable)

/-- A group that is not known stands inside a member. -/
theorem replies_extensible_of_group : Inserts .memberTable [10, 2, 32, 1] [10, 4, 51, 52, 32, 1]
    ∧ MemberTable.decode [10, 4, 51, 52, 32, 1] = some ⟨[{ isAlive := true }]⟩ := by
  have hgroup : IsField 99 ⟨6, .group⟩ [51, 52] := by
    have hread : readField 99 [51, 52] = some (⟨6, .group⟩, []) := by decide +kernel
    obtain ⟨used, hused, hfield⟩ := readField_eq_some_iff.1 hread
    rwa [hused, List.append_nil]
  have hmember : Inserts .member [32, 1] [51, 52, 32, 1] :=
    show Inserts .member ([] ++ [32, 1]) ([] ++ ([51, 52] ++ [32, 1]))
      from .here .nil hgroup (by decide)
  have hkey : IsKey [10] 1 .bytes :=
    ⟨⟨.last (by decide), by decide, by decide⟩, by decide, by decide⟩
  have hinserts : Inserts .memberTable [10, 2, 32, 1] [10, 4, 51, 52, 32, 1] :=
    show Inserts .memberTable ([] ++ ([10] ++ ([2] ++ [32, 1]) ++ []))
      ([] ++ ([10] ++ ([4] ++ [51, 52, 32, 1]) ++ [])) from
    .inside .nil hkey rfl ⟨.last (by decide), by decide, by decide⟩
      ⟨.last (by decide), by decide, by decide⟩ hmember
  have hsame := (replies_extensible [10, 2, 32, 1] [10, 4, 51, 52, 32, 1]).2.2.1 hinserts
  exact ⟨hinserts, hsame.trans (by decide +kernel)⟩

end ClusterLink.Wire
