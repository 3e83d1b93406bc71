import ClusterLink.Failure.Class
import ClusterLink.Proofs.Failure.Header
import ClusterLink.Proofs.Node.Reading

/-!
# What classification sees

A status rejects a call (`Status.IsRejection`) if its exception header says so, and names a leader
(`Status.NamesLeader`) if its headers give a host that is not blank and a port that is not zero.
Classification asks for nothing else: a rejection that names a leader is a redirection to that
leader, a rejection that names none counts as `unavailable`, and the code is looked at only if there
is no rejection (`failures_are_classified`).

A node turns calls away with a status that it makes up for the leader. Over whatever transport it is
sent, its headers name the leader only if the host consists of plain characters, not all of them
blank, and the port is not zero (`EndPoint.CanBeNamed`); and the leader that they name has its host
trimmed. Any other leader is lost, so the rejection counts as `unavailable`. The transport must take
the values that can be read; of the others it may take any, since those are not read at the other
end.
-/

namespace ClusterLink

/-! ## Classification -/

namespace Status

/-- **The status rejects the call**: its exception is that of a node that is not the leader. -/
def IsRejection (s : Status) : Prop :=
  ∃ text, s.metadata.Says exceptionKey text
    ∧ Text.foldCase (Text.trim text) = notLeaderException.toList

/-- **The status names the leader.** -/
structure NamesLeader (s : Status) (leader : EndPoint) : Prop where
  host : ∃ text, s.metadata.SaysUnder "leader-endpoint-host" "leader-host" text
    ∧ Text.trim text = leader.host.toList
  host_ne : leader.host ≠ ""
  port : ∃ text, s.metadata.SaysUnder "leader-endpoint-port" "leader-port" text
    ∧ Text.IsNumeral (Text.trim text) leader.port.toNat
  port_ne : leader.port ≠ 0

/-- **A status is classified by its headers and its code.** -/
structure IsClassified (s : Status) : Prop where
  /-- A rejection that names a leader asks for that leader. -/
  notLeader_iff : ∀ leader, s.classify = .notLeader leader
    ↔ s.IsRejection ∧ s.NamesLeader leader
  /-- A rejection that names none, and the code `unavailable`, ask for a new discovery. -/
  unavailable_iff : s.classify = .unavailable
    ↔ (¬∃ leader, s.IsRejection ∧ s.NamesLeader leader)
      ∧ (s.IsRejection ∨ s.code = .unavailable)
  /-- All the others ask for nothing. -/
  other_iff : s.classify = .other ↔ ¬s.IsRejection ∧ s.code ≠ .unavailable

theorem isRejection_iff {s : Status} :
    (s.metadata.header? exceptionKey).any namesNotLeader = true ↔ s.IsRejection := by
  simp only [Option.any_eq_true, Metadata.header?_eq_some_iff, namesNotLeader, beq_iff_eq,
    IsRejection]

theorem leaderHint?_eq_some_iff {s : Status} {leader : EndPoint} :
    leaderHint? s.metadata = some leader ↔ s.NamesLeader leader := by
  have hhost : ∀ text, s.metadata.firstHeader? leaderHostKeys = some text
      ↔ s.metadata.SaysUnder "leader-endpoint-host" "leader-host" text :=
    fun _ => Metadata.firstHeader?_eq_some_iff
  have hport : ∀ text, s.metadata.firstHeader? leaderPortKeys = some text
      ↔ s.metadata.SaysUnder "leader-endpoint-port" "leader-port" text :=
    fun _ => Metadata.firstHeader?_eq_some_iff
  constructor
  · intro h
    unfold leaderHint? at h
    split at h
    · rename_i host port hh hp
      split at h
      · rename_i number hnumber
        split at h
        · cases h
        · rename_i husable
          cases h
          simp only [Bool.or_eq_true, List.isEmpty_iff, beq_iff_eq, not_or] at husable
          exact {
            host := ⟨host, (hhost host).1 hh, String.toList_ofList.symm⟩
            host_ne := fun hempty => husable.1 (String.ofList_eq_empty_iff.1 hempty)
            port := ⟨port, (hport port).1 hp, EndPoint.readPort_eq_ok_iff.1 hnumber⟩
            port_ne := husable.2 }
      · cases h
    · cases h
  · rintro ⟨⟨host, hh, htrim⟩, hne, ⟨port, hp, hnumeral⟩, hzero⟩
    have husable : (leader.host.toList.isEmpty || leader.port == 0) = false := by
      simp [hne, hzero]
    rw [leaderHint?, (hhost host).2 hh, (hport port).2 hp]
    simp only [EndPoint.readPort_eq_ok_iff.2 hnumeral, htrim, husable, Bool.false_eq_true, if_false,
      String.ofList_toList]

theorem isClassified (s : Status) : s.IsClassified := by
  by_cases hreject : s.IsRejection
  · cases hhint : leaderHint? s.metadata with
    | some leader =>
      have hnamed : s.NamesLeader leader := leaderHint?_eq_some_iff.1 hhint
      have hclass : s.classify = .notLeader leader := by
        rw [classify, if_pos (isRejection_iff.2 hreject), hhint]
      constructor
      · intro other
        rw [hclass, FailureClass.notLeader.injEq, and_iff_right hreject,
          ← leaderHint?_eq_some_iff, hhint, Option.some.injEq]
      · rw [hclass]
        exact iff_of_false (by simp) fun h => h.1 ⟨leader, hreject, hnamed⟩
      · rw [hclass]
        exact iff_of_false (by simp) fun h => h.1 hreject
    | none =>
      have hnone : ∀ leader, ¬s.NamesLeader leader := by
        intro leader hnamed
        cases hhint.symm.trans (leaderHint?_eq_some_iff.2 hnamed)
      have hclass : s.classify = .unavailable := by
        rw [classify, if_pos (isRejection_iff.2 hreject), hhint]
      constructor
      · intro leader
        rw [hclass]
        exact iff_of_false (by simp) fun h => hnone leader h.2
      · rw [hclass]
        exact iff_of_true rfl ⟨fun ⟨leader, h⟩ => hnone leader h.2, .inl hreject⟩
      · rw [hclass]
        exact iff_of_false (by simp) fun h => h.1 hreject
  · have hclass : s.classify = if s.code = .unavailable then .unavailable else .other := by
      rw [classify, if_neg (mt isRejection_iff.1 hreject)]
    constructor
    · intro leader
      rw [hclass]
      exact iff_of_false (by split <;> simp) fun h => hreject h.1
    · rw [hclass]
      simp [hreject]
    · rw [hclass]
      simp [hreject]

end Status

/-! ## Rejections -/

/-- **The headers of a rejection can name the leader.** -/
structure EndPoint.CanBeNamed (e : EndPoint) : Prop where
  host_isPlain : ∀ c ∈ e.host.toList, Metadata.IsPlain c.toNat
  host_not_blank : ∃ c ∈ e.host.toList, Text.isBlank c = false
  port_ne : e.port ≠ 0

/-- The endpoint without the blanks around its host. -/
def EndPoint.trimmed (e : EndPoint) : EndPoint :=
  ⟨String.ofList (Text.trim e.host.toList), e.port⟩

/-- Nothing is left of a host that is blank. -/
theorem EndPoint.host_trimmed_ne_iff {e : EndPoint} :
    e.trimmed.host ≠ "" ↔ ∃ c ∈ e.host.toList, Text.isBlank c = false := by
  simp only [trimmed, ne_eq, String.ofList_eq_empty_iff, Text.trim_eq_nil_iff, not_forall,
    Bool.not_eq_true, exists_prop]

namespace Status

variable {maySend : List UInt8 → Bool} {e f : EndPoint} {text : List Char}

theorem isRejection_rejectionOver : (rejectionOver maySend e).IsRejection := by
  refine ⟨notLeaderException.toList, Metadata.header?_eq_some_iff.1 ?_, rfl⟩
  rw [rejectionOver, List.cons_append, Metadata.header?_cons,
    if_pos (Text.equalIgnoringCase_refl _)]
  exact Metadata.text?_toUTF8_eq_some_iff.2 ⟨rfl, Metadata.isPlain_of_all rfl⟩

/-- What a rejection says under the keys of the leader. -/
theorem header?_rejectionOver {key : String}
    (hkey : Text.equalIgnoringCase exceptionKey key = false) :
    (rejectionOver maySend e).metadata.header? key
      = if Text.equalIgnoringCase "leader-endpoint-host" key
            && maySend e.host.toUTF8.data.toList then
          Metadata.text? e.host.toUTF8.data.toList
        else if Text.equalIgnoringCase "leader-endpoint-port" key then
          some (toString e.port.toNat).toList
        else none := by
  have hport : Metadata.text? (toString e.port.toNat).toUTF8.data.toList
      = some (toString e.port.toNat).toList :=
    Metadata.text?_toUTF8_eq_some_iff.2
      ⟨rfl, fun _ hc => Metadata.isPlain_of_isDigit (Text.isDigit_of_mem_toString hc)⟩
  rw [rejectionOver, List.cons_append, Metadata.header?_cons, hkey,
    if_neg Bool.false_ne_true, ← hport]
  by_cases hmay : maySend e.host.toUTF8.data.toList = true
  · rw [if_pos hmay, List.singleton_append, Metadata.header?_cons, Metadata.header?_cons, hmay,
      Bool.and_true]
    rfl
  · rw [if_neg hmay, List.nil_append, Metadata.header?_cons, Bool.eq_false_iff.2 hmay,
      Bool.and_false]
    rfl

/-- The host of a rejection is read as it was sent, if it is plain. -/
theorem saysUnder_host_rejectionOver
    (hsend : ∀ value : List UInt8, value.all Metadata.isReadable = true →
      maySend value = true) :
    (rejectionOver maySend e).metadata.SaysUnder "leader-endpoint-host" "leader-host" text
      ↔ text = e.host.toList ∧ ∀ c ∈ e.host.toList, Metadata.IsPlain c.toNat := by
  have hlong : (rejectionOver maySend e).metadata.header? "leader-endpoint-host"
      = Metadata.text? e.host.toUTF8.data.toList := by
    refine (header?_rejectionOver rfl).trans ?_
    by_cases hmay : maySend e.host.toUTF8.data.toList = true
    · rw [hmay]
      rfl
    · -- what is not taken could not be read either
      have hnone : Metadata.text? e.host.toUTF8.data.toList = none := by
        rw [Metadata.text?, if_neg (mt (hsend _) hmay)]
      rw [Bool.eq_false_iff.2 hmay, hnone]
      rfl
  have hshort : (rejectionOver maySend e).metadata.header? "leader-host" = none :=
    header?_rejectionOver rfl
  rw [← Metadata.firstHeader?_eq_some_iff, ← Metadata.text?_toUTF8_eq_some_iff,
    Metadata.firstHeader?, List.findSome?_cons, List.findSome?_singleton, hlong, hshort]
  cases Metadata.text? e.host.toUTF8.data.toList with
  | none => exact Iff.rfl
  | some read => exact Iff.rfl

theorem saysUnder_port_rejectionOver :
    (rejectionOver maySend e).metadata.SaysUnder "leader-endpoint-port" "leader-port" text
      ↔ text = (toString e.port.toNat).toList := by
  have hlong : (rejectionOver maySend e).metadata.header? "leader-endpoint-port"
      = some (toString e.port.toNat).toList := header?_rejectionOver rfl
  rw [← Metadata.firstHeader?_eq_some_iff, Metadata.firstHeader?, List.findSome?_cons, hlong,
    Option.some.injEq, eq_comm]

/-- **A rejection names the leader**, and no other one, if its headers can name it at all. -/
theorem namesLeader_rejectionOver_iff
    (hsend : ∀ value : List UInt8, value.all Metadata.isReadable = true →
      maySend value = true) :
    (rejectionOver maySend e).NamesLeader f ↔ e.CanBeNamed ∧ f = e.trimmed := by
  constructor
  · rintro ⟨⟨host, hhost, htrim⟩, hne, ⟨port, hport, hnumeral⟩, hzero⟩
    obtain ⟨rfl, hplain⟩ := (saysUnder_host_rejectionOver hsend).1 hhost
    obtain rfl := saysUnder_port_rejectionOver.1 hport
    rw [Text.trim_toString] at hnumeral
    have hf : f = e.trimmed := by
      have hport := EndPoint.readPort_eq_ok_iff.2 hnumeral
      rw [EndPoint.readPort_eq_ok_iff.2 (.plain (Text.isDigits_toString e.port.toNat))] at hport
      cases f
      rw [EndPoint.trimmed, htrim, String.ofList_toList, Except.ok.inj hport]
    subst hf
    exact ⟨⟨hplain, EndPoint.host_trimmed_ne_iff.1 hne, hzero⟩, rfl⟩
  · rintro ⟨⟨hplain, hblank, hzero⟩, rfl⟩
    exact {
      host := ⟨e.host.toList, (saysUnder_host_rejectionOver hsend).2 ⟨rfl, hplain⟩,
        String.toList_ofList.symm⟩
      host_ne := EndPoint.host_trimmed_ne_iff.2 hblank
      port := ⟨_, saysUnder_port_rejectionOver.2 rfl, by
        rw [Text.trim_toString]
        exact .plain (Text.isDigits_toString _)⟩
      port_ne := hzero }

/-- **The rejection of a leader is classified as that leader**, trimmed, if its headers can name it,
and as `unavailable` otherwise. -/
structure TellsLeader (maySend : List UInt8 → Bool) (e : EndPoint) : Prop where
  notLeader : e.CanBeNamed → (rejectionOver maySend e).classify = .notLeader e.trimmed
  unavailable : ¬e.CanBeNamed → (rejectionOver maySend e).classify = .unavailable

theorem tellsLeader
    (hsend : ∀ value : List UInt8, value.all Metadata.isReadable = true → maySend value = true)
    (e : EndPoint) : TellsLeader maySend e where
  notLeader h := ((isClassified _).notLeader_iff _).2
    ⟨isRejection_rejectionOver, (namesLeader_rejectionOver_iff hsend).2 ⟨h, rfl⟩⟩
  unavailable h := (isClassified _).unavailable_iff.2
    ⟨fun ⟨_, _, hnamed⟩ => h ((namesLeader_rejectionOver_iff hsend).1 hnamed).1,
      .inl isRejection_rejectionOver⟩

end Status

/-! ## Failures -/

/-- **Failures are classified by what their headers say**, and the rejection that is made up for a
leader tells of that leader whenever its headers can. -/
theorem failures_are_classified {maySend : List UInt8 → Bool}
    (hsend : ∀ value : List UInt8, value.all Metadata.isReadable = true →
      maySend value = true) :
    (∀ s : Status, s.IsClassified) ∧ ∀ leader, Status.TellsLeader maySend leader :=
  ⟨Status.isClassified, Status.tellsLeader hsend⟩

/-- A byte that a header may hold: any but the control characters, of which only the tab may stand
there. -/
def Metadata.mayStand (b : UInt8) : Bool := (0x20 ≤ b && b != 0x7f) || b == 0x09

theorem Metadata.mayStand_of_isReadable {b : UInt8} (h : isReadable b = true) :
    mayStand b = true := by
  have hplain : IsPlain b.toNat := isReadable_iff.1 h
  unfold IsPlain at hplain
  simp only [mayStand, Bool.or_eq_true, Bool.and_eq_true, decide_eq_true_eq, bne_iff_ne, beq_iff_eq,
    UInt8.le_iff_toNat_le, ne_eq, ← UInt8.toNat_inj]
  show (32 ≤ b.toNat ∧ ¬b.toNat = 127) ∨ b.toNat = 9
  omega

/-- Where bytes beyond ASCII may be sent, the host `nöde` is sent, but is not read. -/
theorem failures_are_classified_beyond_ascii :
    (∀ value : List UInt8, value.all Metadata.isReadable = true →
      value.all Metadata.mayStand = true)
      ∧ (Status.rejectionOver (·.all Metadata.mayStand) ⟨" node\t", 7⟩).classify
        = .notLeader ⟨"node", 7⟩
      ∧ (Status.rejectionOver (·.all Metadata.mayStand) ⟨"nöde", 7⟩).classify
        = .unavailable := by
  have hsend : ∀ value : List UInt8, value.all Metadata.isReadable = true →
      value.all Metadata.mayStand = true := fun _ h =>
    List.all_eq_true.2 fun b hb => Metadata.mayStand_of_isReadable (List.all_eq_true.1 h b hb)
  have htells := (failures_are_classified hsend).2
  exact ⟨hsend,
    (htells ⟨" node\t", 7⟩).notLeader ⟨Metadata.isPlain_of_all rfl,
      ⟨'n', by decide, rfl⟩, by decide⟩,
    (htells ⟨"nöde", 7⟩).unavailable fun h =>
      absurd (h.host_isPlain 'ö' (by decide)) (by decide)⟩

end ClusterLink
