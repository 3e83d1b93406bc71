import ClusterLink.Node.Capabilities
import ClusterLink.Proofs.Text.Case
import ClusterLink.Proofs.Text.Trim
import Mathlib.Data.List.Forall2

/-!
# What a list of methods says about a node

A node has an optional feature just if one of the methods that it lists announces it
(`SupportedMethod.Announces`): the last part of the service name and the method name are those of
the feature but for their case, and the method lists what the feature asks for besides. Reading
takes in one method after the other, and each adds what it announces and takes nothing away
(`Capabilities.has_add`).

The main statement is `features_are_announced`. It follows that neither the order of the methods
matters nor how often one is listed or how it is spelled, that a node with more methods has no fewer
features, and that two lists together announce what either of them does.
-/

namespace ClusterLink

/-! ## Features -/

/-- **An optional feature** of a node. -/
inductive Feature where
  | batchAppend
  | subscribeToAll
  | manageSubscriptions
  | getSubscriptionInfo
  | restartSubsystem
  | listSubscriptions
  deriving DecidableEq, Repr

namespace Feature

/-- The service that has the method of the feature. -/
def service : Feature → String
  | .batchAppend => "Streams"
  | _ => "PersistentSubscriptions"

/-- The method that announces the feature. -/
def method : Feature → String
  | .batchAppend => "BatchAppend"
  | .subscribeToAll => "Create"
  | .manageSubscriptions => "ReplayParked"
  | .getSubscriptionInfo => "GetInfo"
  | .restartSubsystem => "RestartSubsystem"
  | .listSubscriptions => "List"

/-- What the method must list besides, if anything. -/
def option? : Feature → Option String
  | .subscribeToAll => some "all"
  | _ => none

end Feature

namespace Capabilities

/-- Whether a feature is among the capabilities. -/
def has (c : Capabilities) : Feature → Bool
  | .batchAppend => c.batchAppend
  | .subscribeToAll => c.subscribeToAll
  | .manageSubscriptions => c.manageSubscriptions
  | .getSubscriptionInfo => c.getSubscriptionInfo
  | .restartSubsystem => c.restartSubsystem
  | .listSubscriptions => c.listSubscriptions

/-- The capabilities with one feature more. -/
def mark (c : Capabilities) : Feature → Capabilities
  | .batchAppend => { c with batchAppend := true }
  | .subscribeToAll => { c with subscribeToAll := true }
  | .manageSubscriptions => { c with manageSubscriptions := true }
  | .getSubscriptionInfo => { c with getSubscriptionInfo := true }
  | .restartSubsystem => { c with restartSubsystem := true }
  | .listSubscriptions => { c with listSubscriptions := true }

theorem has_mark (c : Capabilities) (f g : Feature) : (c.mark f).has g = (c.has g || f == g) := by
  cases f <;> cases g <;> first | exact (Bool.or_true _).symm | exact (Bool.or_false _).symm

/-- Capabilities are told by their version and their features. -/
theorem eq_of_has {c d : Capabilities} (hversion : c.version = d.version)
    (hfeatures : ∀ f, c.has f = d.has f) : c = d := by
  cases c
  cases d
  simp only [Capabilities.mk.injEq]
  exact ⟨hversion, hfeatures .batchAppend, hfeatures .subscribeToAll,
    hfeatures .manageSubscriptions, hfeatures .getSubscriptionInfo, hfeatures .restartSubsystem,
    hfeatures .listSubscriptions⟩

end Capabilities

/-! ## One method -/

namespace SupportedMethod

variable {m n : SupportedMethod} {f g : Feature}

/-- **The method announces the feature.** Case does not matter. -/
structure Announces (m : SupportedMethod) (f : Feature) : Prop where
  service : ∃ part, Text.IsLastPart m.service.toList part
    ∧ Text.foldCase part = Text.foldCase f.service.toList
  method : Text.equalIgnoringCase m.method f.method = true
  option : ∀ option ∈ f.option?, ∃ given ∈ m.features,
    Text.equalIgnoringCase given option = true

/-- Whether the method is the one of the feature. -/
def isMethodOf (m : SupportedMethod) (f : Feature) : Bool :=
  m.isNamed (Text.lowercase f.service) (Text.lowercase f.method)

/-- Whether the method is read as one that announces the feature. -/
def announces (m : SupportedMethod) (f : Feature) : Bool :=
  m.isMethodOf f && f.option?.all m.hasFeature

theorem isMethodOf_iff : m.isMethodOf f = true
    ↔ m.serviceWord = Text.lowercase f.service ∧ m.methodWord = Text.lowercase f.method := by
  simp [isMethodOf, isNamed]

/-- No method is the one of two features. -/
theorem eq_of_isMethodOf (hf : m.isMethodOf f = true) (hg : m.isMethodOf g = true) : f = g := by
  obtain ⟨hservice, hmethod⟩ := isMethodOf_iff.1 hf
  obtain ⟨hservice', hmethod'⟩ := isMethodOf_iff.1 hg
  have hwords := And.intro (hservice.symm.trans hservice') (hmethod.symm.trans hmethod')
  cases f <;> cases g <;> first | rfl | exact absurd hwords (by decide)

/-- The method of one feature announces no other. -/
theorem announces_of_isMethodOf (h : m.isMethodOf f = true) (g : Feature) :
    m.announces g = (f == g && f.option?.all m.hasFeature) := by
  by_cases hfg : f = g
  · rw [← hfg, announces, h, beq_self_eq_true]
  · have hother : m.isMethodOf g = false :=
      Bool.eq_false_iff.2 fun hg => hfg (eq_of_isMethodOf h hg)
    rw [announces, hother, beq_eq_false_iff_ne.2 hfg, Bool.false_and, Bool.false_and]

theorem announces_iff : m.announces f = true ↔ m.Announces f := by
  have hservice : m.serviceWord = Text.lowercase f.service
      ↔ ∃ part, Text.IsLastPart m.service.toList part
        ∧ Text.foldCase part = Text.foldCase f.service.toList := by
    simp only [serviceWord, Text.lowercase, String.ofList_inj, ← Text.lastSegment_eq_iff,
      exists_eq_left']
  have hmethod : m.methodWord = Text.lowercase f.method
      ↔ Text.equalIgnoringCase m.method f.method = true := by
    rw [Text.equalIgnoringCase_iff, methodWord, Text.lowercase, Text.lowercase, String.ofList_inj]
  have hoption : f.option?.all m.hasFeature = true
      ↔ ∀ option ∈ f.option?, ∃ given ∈ m.features,
        Text.equalIgnoringCase given option = true := by
    cases f <;> simp [Feature.option?, hasFeature]
  rw [announces, Bool.and_eq_true, isMethodOf_iff, hservice, hmethod, hoption]
  exact ⟨fun h => ⟨h.1.1, h.1.2, h.2⟩, fun h => ⟨⟨h.service, h.method⟩, h.option⟩⟩

/-- **The methods differ in the case of their names at most.** -/
structure IsSpelledAs (m n : SupportedMethod) : Prop where
  service : Text.equalIgnoringCase m.service n.service = true
  method : Text.equalIgnoringCase m.method n.method = true
  features : List.Forall₂ (fun given other => Text.equalIgnoringCase given other = true)
    m.features n.features

theorem IsSpelledAs.refl (m : SupportedMethod) : m.IsSpelledAs m where
  service := Text.equalIgnoringCase_refl _
  method := Text.equalIgnoringCase_refl _
  features := List.forall₂_same.2 fun _ _ => Text.equalIgnoringCase_refl _

/-- A feature is listed, however the list is spelled. -/
theorem any_equalIgnoringCase_eq {given others : List String}
    (h : List.Forall₂ (fun a b => Text.equalIgnoringCase a b = true) given others)
    (feature : String) :
    given.any (Text.equalIgnoringCase · feature)
      = others.any (Text.equalIgnoringCase · feature) := by
  induction h with
  | nil => rfl
  | cons hgiven _ ih =>
    rw [List.any_cons, List.any_cons, ih, Text.equalIgnoringCase, Text.equalIgnoringCase,
      Text.equalIgnoringCase_iff.1 hgiven]

/-- A method announces the same, however it is spelled. -/
theorem IsSpelledAs.announces_eq (h : m.IsSpelledAs n) (f : Feature) :
    m.announces f = n.announces f := by
  have hservice : m.serviceWord = n.serviceWord := by
    rw [serviceWord, serviceWord, Text.foldCase_lastSegment, Text.foldCase_lastSegment,
      Text.equalIgnoringCase_iff.1 h.service]
  have hmethod : m.methodWord = n.methodWord :=
    congrArg String.ofList (Text.equalIgnoringCase_iff.1 h.method)
  have hfeature : m.hasFeature = n.hasFeature := funext (any_equalIgnoringCase_eq h.features)
  rw [announces, announces, isMethodOf, isMethodOf, isNamed, isNamed, hservice, hmethod, hfeature]

end SupportedMethod

namespace Capabilities

/-- **What one method adds** is what it announces. -/
theorem has_add (c : Capabilities) (m : SupportedMethod) (f : Feature) :
    (c.add m).has f = (c.has f || m.announces f) := by
  have hmark : ∀ g, m.isMethodOf g = true → g.option?.all m.hasFeature = true →
      (c.mark g).has f = (c.has f || m.announces f) := by
    intro g hg hoption
    rw [has_mark, SupportedMethod.announces_of_isMethodOf hg, hoption, Bool.and_true]
  have hkeep : m.announces f = false → c.has f = (c.has f || m.announces f) := by
    intro hnone
    rw [hnone, Bool.or_false]
  unfold add
  split_ifs with happend hcreate hall hinfo hreplay hrestart hlist
  · exact hmark .batchAppend happend rfl
  · exact hmark .subscribeToAll hcreate hall
  · -- the method is there, but it does not list what it must
    refine hkeep ?_
    rw [SupportedMethod.announces_of_isMethodOf (f := .subscribeToAll) hcreate]
    simp [Feature.option?, hall]
  · exact hmark .getSubscriptionInfo hinfo rfl
  · exact hmark .manageSubscriptions hreplay rfl
  · exact hmark .restartSubsystem hrestart rfl
  · exact hmark .listSubscriptions hlist rfl
  · refine hkeep (Bool.and_eq_false_imp.2 fun hmethod => ?_)
    cases f with
    | batchAppend => exact absurd hmethod happend
    | subscribeToAll => exact absurd hmethod hcreate
    | manageSubscriptions => exact absurd hmethod hreplay
    | getSubscriptionInfo => exact absurd hmethod hinfo
    | restartSubsystem => exact absurd hmethod hrestart
    | listSubscriptions => exact absurd hmethod hlist

theorem version_add (c : Capabilities) (m : SupportedMethod) : (c.add m).version = c.version := by
  unfold add
  split_ifs <;> rfl

/-! ## All methods -/

theorem has_foldl_add (methods : List SupportedMethod) (c : Capabilities) (f : Feature) :
    (methods.foldl add c).has f = (c.has f || methods.any (·.announces f)) := by
  induction methods generalizing c with
  | nil => exact (Bool.or_false _).symm
  | cons m methods ih => rw [List.foldl_cons, ih, has_add, List.any_cons, Bool.or_assoc]

theorem version_foldl_add (methods : List SupportedMethod) (c : Capabilities) :
    (methods.foldl add c).version = c.version := by
  induction methods generalizing c with
  | nil => rfl
  | cons m methods ih => rw [List.foldl_cons, ih, version_add]

theorem has_ofMethods (t : MethodTable) (f : Feature) :
    (ofMethods t).has f = t.methods.any (·.announces f) := by
  rw [ofMethods, has_foldl_add]
  cases f <;> exact Bool.false_or _

theorem version_ofMethods (t : MethodTable) : (ofMethods t).version = versionOf t.version :=
  version_foldl_add t.methods _

theorem versionOf_eq_some_iff {text v : String} :
    versionOf text = some v ↔ v ≠ "" ∧ Text.IsTrimmed text.toList v.toList := by
  rw [← Text.trim_eq_iff, ← String.ofList_inj, String.ofList_toList, versionOf]
  split
  · rename_i hempty
    rw [List.isEmpty_iff.1 hempty]
    exact iff_of_false (by simp) fun h => h.1 h.2.symm
  · rename_i hne
    rw [Option.some.injEq, and_iff_right_of_imp]
    rintro rfl hnil
    exact hne (List.isEmpty_iff.2 (String.ofList_eq_empty_iff.1 hnil))

theorem versionOf_eq_none_iff {text : String} :
    versionOf text = none ↔ ∀ c ∈ text.toList, Text.isBlank c = true := by
  rw [← Text.trim_eq_nil_iff, ← List.isEmpty_iff, versionOf]
  split <;> simp_all

/-- A table that lists, in whatever spelling, all that another one lists has its features. -/
theorem has_of_spelled {s t : MethodTable}
    (h : ∀ m ∈ s.methods, ∃ n ∈ t.methods, m.IsSpelledAs n) {f : Feature}
    (hf : (ofMethods s).has f = true) : (ofMethods t).has f = true := by
  rw [has_ofMethods, List.any_eq_true] at hf ⊢
  obtain ⟨m, hm, hannounces⟩ := hf
  obtain ⟨n, hn, hspelled⟩ := h m hm
  exact ⟨n, hn, (hspelled.announces_eq f).symm.trans hannounces⟩

end Capabilities

/-! ## The result -/

/-- **A node has the features that its methods announce**, and the version that it tells, without
the blanks around it; a blank version is none. So it is the same whatever the order of the methods,
and however often each is listed and in whatever case it is spelled; more methods never take a
feature away; and two lists of methods together announce what either of them announces. -/
theorem features_are_announced (t : MethodTable) :
    (∀ f, (Capabilities.ofMethods t).has f = true ↔ ∃ m ∈ t.methods, m.Announces f)
    ∧ (∀ v, (Capabilities.ofMethods t).version = some v
      ↔ v ≠ "" ∧ Text.IsTrimmed t.version.toList v.toList)
    ∧ ((Capabilities.ofMethods t).version = none
      ↔ ∀ c ∈ t.version.toList, Text.isBlank c = true)
    ∧ (∀ s : MethodTable, s.version = t.version →
      (∀ m ∈ s.methods, ∃ n ∈ t.methods, m.IsSpelledAs n) →
      (∀ n ∈ t.methods, ∃ m ∈ s.methods, n.IsSpelledAs m) →
      Capabilities.ofMethods s = Capabilities.ofMethods t)
    ∧ (∀ s : MethodTable, s.methods ⊆ t.methods →
      ∀ f, (Capabilities.ofMethods s).has f = true → (Capabilities.ofMethods t).has f = true)
    ∧ ∀ (s : MethodTable) (version : String) (f : Feature),
      (Capabilities.ofMethods ⟨s.methods ++ t.methods, version⟩).has f
        = ((Capabilities.ofMethods s).has f || (Capabilities.ofMethods t).has f) := by
  refine ⟨fun f => ?_, fun v => ?_, ?_, fun s hversion hst hts => ?_, fun s hsub f => ?_,
    fun s version f => ?_⟩
  · simp only [Capabilities.has_ofMethods, List.any_eq_true, SupportedMethod.announces_iff]
  · rw [Capabilities.version_ofMethods, Capabilities.versionOf_eq_some_iff]
  · rw [Capabilities.version_ofMethods, Capabilities.versionOf_eq_none_iff]
  · refine Capabilities.eq_of_has ?_ fun f => ?_
    · rw [Capabilities.version_ofMethods, Capabilities.version_ofMethods, hversion]
    · exact Bool.eq_iff_iff.2 ⟨Capabilities.has_of_spelled hst,
        Capabilities.has_of_spelled hts⟩
  · exact Capabilities.has_of_spelled fun m hm => ⟨m, hsub hm, .refl m⟩
  · simp only [Capabilities.has_ofMethods, List.any_append]

-- persistent subscriptions can be made to single streams only
example : Capabilities.ofMethods
    { version := " 23.1 "
      methods := [⟨"cluster.v1.Streams", "BATCHAPPEND", []⟩,
        ⟨"PersistentSubscriptions", "create", ["stream"]⟩] }
      = { version := some "23.1", batchAppend := true } := by decide

end ClusterLink
