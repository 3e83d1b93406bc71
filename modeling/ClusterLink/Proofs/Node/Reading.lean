import ClusterLink.Proofs.Node.Display
import ClusterLink.Proofs.Text.Trim

/-!
# Endpoints that are read back

An endpoint is written as a text, or as the address of its service, and either may be read again.
What comes back is the endpoint itself exactly if its host stands out in the text
(`EndPoint.IsReadable`): it is not empty, holds nothing that would begin a path, has no closing
bracket if it is written in brackets, and does not begin with an opening one if it is not. Without
brackets it must not begin with a blank either, unless something is written in front of it. Any
other host is refused, or another one is read in its place (`EndPoint.readsBack_written`).

The text behind the host is a colon and digits, and the reader takes neither for a blank, a slash or
a bracket. So what the steps of the reader do is decided by the host alone: which blanks are
dropped, whether a scheme is seen, and where the authority is divided. If the division is not that
of the writer, the host that comes out is shorter (`EndPoint.length_lt_of_not_standsOut`).
-/

namespace ClusterLink

namespace Text

/-- A text that begins otherwise does not begin so. -/
theorem afterStart?_eq_none {start cs : List Char} (h : ¬start <+: cs) :
    afterStart? start cs = none := by
  rw [afterStart?, if_neg]
  rwa [List.isPrefixOf_iff_prefix]

theorem afterStart?_append (start cs : List Char) : afterStart? start (start ++ cs) = some cs := by
  rw [afterStart?, if_pos (List.isPrefixOf_iff_prefix.2 (List.prefix_append ..)), List.drop_left]

end Text

namespace EndPoint

/-! ## Reading an authority -/

/-- Reads an authority: what is left of an address without its scheme. -/
def ofAuthority (cs : List Char) : Except Flaw EndPoint :=
  match splitAuthority cs with
  | .error flaw => .error flaw
  | .ok (host, port) =>
    if host.isEmpty then .error .emptyHost
    else if host.any startsPath then .error .unexpectedPath
    else match readPort port with
      | .error cause => .error (.invalidPort cause)
      | .ok number => .ok ⟨String.ofList host, number⟩

theorem ofChars_eq (cs : List Char) :
    ofChars cs = ofAuthority (Text.dropEndWhile (· == '/') (dropScheme (Text.trim cs))) := rfl

theorem readPort_eq_ok_iff {cs : List Char} {port : UInt16} :
    readPort cs = .ok port ↔ Text.IsNumeral cs port.toNat := by
  rw [readPort]
  constructor
  · intro h
    cases hread : Text.readNumeral 65535 cs with
    | error cause => rw [hread] at h; cases h
    | ok n =>
      rw [hread] at h
      obtain ⟨hnumeral, hle⟩ := Text.readNumeral_eq_ok_iff.1 hread
      cases h
      rwa [UInt16.toNat_ofNat_of_lt' (Nat.lt_succ_of_le hle)]
  · intro h
    rw [Text.readNumeral_eq_ok_iff.2 ⟨h, Nat.le_of_lt_succ port.toNat_lt⟩]
    exact congrArg Except.ok (UInt16.ofNat_toNat ..)

/-- **An authority is read** if it divides into a host that is not empty and begins no path, and a
port. -/
theorem ofAuthority_eq_ok_iff {cs : List Char} {e : EndPoint} :
    ofAuthority cs = .ok e ↔ ∃ port, splitAuthority cs = .ok (e.host.toList, port)
      ∧ e.host.toList ≠ [] ∧ (∀ c ∈ e.host.toList, startsPath c = false)
      ∧ Text.IsNumeral port e.port.toNat := by
  unfold ofAuthority
  split
  · rename_i hsplit
    refine iff_of_false (by simp) ?_
    rintro ⟨port, hok, -⟩
    cases hsplit.symm.trans hok
  · rename_i host port hsplit
    constructor
    · intro h
      split at h
      · cases h
      rename_i hne
      split at h
      · cases h
      rename_i hpath
      split at h
      · cases h
      rename_i number hport
      cases h
      rw [String.toList_ofList]
      refine ⟨port, hsplit, fun hnil => hne (List.isEmpty_iff.2 hnil), fun c hc => ?_,
        readPort_eq_ok_iff.1 hport⟩
      exact Bool.eq_false_iff.2 fun hstarts => hpath (List.any_eq_true.2 ⟨c, hc, hstarts⟩)
    · rintro ⟨port', hok, hne, hpath, hnumeral⟩
      cases hsplit.symm.trans hok
      have hany : e.host.toList.any startsPath = false :=
        List.any_eq_false.2 fun c hc => Bool.eq_false_iff.1 (hpath c hc)
      rw [if_neg (mt List.isEmpty_iff.1 hne), hany, if_neg Bool.false_ne_true,
        readPort_eq_ok_iff.2 hnumeral]
      exact congrArg (fun host => Except.ok (⟨host, e.port⟩ : EndPoint)) String.ofList_toList

/-! ## Dropping the scheme -/

theorem dropScheme_http (cs : List Char) : dropScheme ("http://".toList ++ cs) = cs := by
  rw [dropScheme, Text.afterStart?_append]

theorem dropScheme_https (cs : List Char) : dropScheme ("https://".toList ++ cs) = cs := by
  have hnot : ¬"http://".toList <+: "https://".toList ++ cs := by simp
  rw [dropScheme, Text.afterStart?_eq_none hnot, Text.afterStart?_append]
  rfl

variable {host port digits : List Char}

/-- What is written does not begin with a scheme: the first colon in it stands before the port, or
something in brackets comes first. -/
theorem not_prefix_displayHost (scheme rest : List Char) (hcolon : ':' ∉ scheme)
    (hhead : scheme.head?.any (· != '[') = true) (hdigits : '/' ∉ digits) :
    ¬scheme ++ ':' :: '/' :: rest <+: displayHost host ++ ':' :: digits := by
  rintro ⟨tail, htext⟩
  unfold displayHost at htext
  split at htext
  · cases scheme with
    | nil => cases hhead
    | cons c cs =>
      obtain rfl := (List.cons.inj htext).1
      cases hhead
  · rename_i hhost
    rw [List.append_assoc] at htext
    have hparts := congrArg (Text.splitFirst? ':') htext
    rw [List.cons_append, Text.splitFirst?_append hcolon, Text.splitFirst?_append hhost,
      Option.some.injEq, Prod.mk.injEq] at hparts
    exact hdigits (hparts.2 ▸ List.mem_cons_self ..)

theorem dropScheme_displayHost (hdigits : '/' ∉ digits) :
    dropScheme (displayHost host ++ ':' :: digits) = displayHost host ++ ':' :: digits := by
  have hhttp : ¬"http://".toList <+: displayHost host ++ ':' :: digits :=
    not_prefix_displayHost "http".toList ['/'] (by decide) rfl hdigits
  have hhttps : ¬"https://".toList <+: displayHost host ++ ':' :: digits :=
    not_prefix_displayHost "https".toList ['/'] (by decide) rfl hdigits
  rw [dropScheme, Text.afterStart?_eq_none hhttp, Text.afterStart?_eq_none hhttps]
  rfl

/-! ## Dividing an authority -/

/-- **The host can be told from what is written around it.** -/
structure StandsOut (host : List Char) : Prop where
  /-- A host in brackets must not close them. -/
  closing : ':' ∈ host → ']' ∉ host
  /-- A host without brackets must not open one. -/
  opening : ':' ∉ host → host.head? ≠ some '['

/-- An authority that does not begin with a bracket is divided at its last colon. -/
theorem splitAuthority_of_not_opening (hopening : host.head? ≠ some '[')
    (hdigits : ':' ∉ digits) :
    splitAuthority (host ++ ':' :: digits) = .ok (host, digits) := by
  unfold splitAuthority
  split
  · rename_i rest htext
    cases host with
    | nil => cases htext
    | cons c cs => exact absurd (congrArg some (List.cons.inj htext).1) hopening
  · rw [Text.splitLast?_append hdigits]

/-- An authority that begins with a bracket has its host before the next closing one. -/
theorem eq_of_splitAuthority_bracket {before after : List Char} (hbefore : ']' ∉ before)
    (h : splitAuthority ('[' :: (before ++ ']' :: after)) = .ok (host, port)) :
    host = before ∧ after = ':' :: port := by
  rw [splitAuthority, Text.splitFirst?_append hbefore] at h
  split at h
  · cases h
  · rename_i hparts
    cases h
    exact ⟨(Prod.mk.inj (Option.some.inj hparts)).1.symm,
      (Prod.mk.inj (Option.some.inj hparts)).2⟩
  · cases h

/-- An authority without the closing bracket is refused. -/
theorem splitAuthority_of_unterminated {rest : List Char} (h : ']' ∉ rest) :
    splitAuthority ('[' :: rest) = .error .unterminatedLiteral := by
  rw [splitAuthority, Text.splitFirst?_eq_none h]

/-- The reader divides where the writer has joined. -/
theorem StandsOut.splitAuthority_eq (h : StandsOut host) (hdigits : ':' ∉ digits) :
    splitAuthority (displayHost host ++ ':' :: digits) = .ok (host, digits) := by
  unfold displayHost
  split
  · rename_i hcolon
    rw [List.cons_append, List.append_assoc, List.singleton_append, splitAuthority,
      Text.splitFirst?_append (h.closing hcolon)]
    rfl
  · rename_i hcolon
    exact splitAuthority_of_not_opening (h.opening hcolon) hdigits

/-- **If the host does not stand out, a shorter one is read**, or none. -/
theorem length_lt_of_not_standsOut {host' : List Char} (h : ¬StandsOut host)
    (hdigits : ']' ∉ digits)
    (hok : splitAuthority (displayHost host ++ ':' :: digits) = .ok (host', port)) :
    host'.length < host.length := by
  unfold displayHost at hok
  split at hok
  · rename_i hcolon
    have hclosing : ']' ∈ host := by
      by_contra hnot
      exact h ⟨fun _ => hnot, fun hno => absurd hcolon hno⟩
    obtain ⟨before, after, rfl, hbefore⟩ := List.eq_append_cons_of_mem hclosing
    rw [List.cons_append, List.append_assoc, List.append_assoc, List.cons_append] at hok
    obtain ⟨rfl, -⟩ := eq_of_splitAuthority_bracket hbefore hok
    simp
  · rename_i hcolon
    have hopening : host.head? = some '[' := by
      by_contra hnot
      exact h ⟨fun hyes => absurd hyes hcolon, fun _ => hnot⟩
    obtain ⟨rest, rfl⟩ := List.head?_eq_some_iff.1 hopening
    by_cases hclosing : ']' ∈ rest
    · obtain ⟨before, after, rfl, hbefore⟩ := List.eq_append_cons_of_mem hclosing
      rw [List.cons_append, List.append_assoc, List.cons_append] at hok
      obtain ⟨rfl, -⟩ := eq_of_splitAuthority_bracket hbefore hok
      rw [List.length_cons, List.length_append, List.length_cons]
      omega
    · rw [List.cons_append, splitAuthority_of_unterminated (by simp [hclosing, hdigits])] at hok
      cases hok

/-! ## Reading what was written -/

/-- **The host can be read back**, if nothing else is in the way. -/
structure IsReadable (host : List Char) : Prop extends StandsOut host where
  ne_nil : host ≠ []
  /-- No path, query or fragment begins in it. -/
  begins_no_path : ∀ c ∈ host, c ≠ '/' ∧ c ≠ '?' ∧ c ≠ '#'

/-- **The host can be read back from the beginning of a text**: it is not cut by the dropping of
blanks. -/
structure IsReadableInFront (host : List Char) : Prop extends IsReadable host where
  begins_with_no_blank : ':' ∉ host → ∀ c ∈ host.head?, Text.isBlank c = false

/-- **What a text gives back** of the endpoint that it was written for. -/
structure ReadsBack (text : String) (e : EndPoint) (condition : Prop) : Prop where
  /-- The endpoint is read exactly if its host meets the condition. -/
  parse_eq_iff : parse text = .ok e ↔ condition
  /-- Otherwise the text is refused, or another host is read. -/
  host_ne : ¬condition → ∀ f, parse text = .ok f → f.host ≠ e.host

/-- The text of a port. -/
def portDigits (e : EndPoint) : List Char := (toString e.port.toNat).toList

theorem startsPath_eq_false_iff {c : Char} :
    startsPath c = false ↔ c ≠ '/' ∧ c ≠ '?' ∧ c ≠ '#' := by
  simp [startsPath, and_assoc]

theorem not_mem_portDigits {c : Char} (h : c.isDigit = false) (e : EndPoint) : c ∉ e.portDigits :=
  Text.not_mem_toString h _

/-- What is written reads as the endpoint if its host can be read back. -/
theorem ofAuthority_written {e : EndPoint} (h : IsReadable e.host.toList) :
    ofAuthority (displayHost e.host.toList ++ ':' :: e.portDigits) = .ok e := by
  refine ofAuthority_eq_ok_iff.2 ⟨e.portDigits, h.splitAuthority_eq (not_mem_portDigits rfl e),
    h.ne_nil, fun c hc => startsPath_eq_false_iff.2 (h.begins_no_path c hc),
    .plain (Text.isDigits_toString _)⟩

/-- A host that comes back can be read back. -/
theorem isReadable_of_ofAuthority {e f : EndPoint}
    (hok : ofAuthority (displayHost e.host.toList ++ ':' :: e.portDigits) = .ok f)
    (hhost : f.host = e.host) : IsReadable e.host.toList := by
  obtain ⟨port, hsplit, hne, hpath, -⟩ := ofAuthority_eq_ok_iff.1 hok
  rw [hhost] at hsplit hne hpath
  have hstands : StandsOut e.host.toList := by
    by_contra hnot
    exact Nat.lt_irrefl _ (length_lt_of_not_standsOut hnot (not_mem_portDigits rfl e) hsplit)
  exact { hstands with ne_nil := hne, begins_no_path := fun c hc =>
    startsPath_eq_false_iff.1 (hpath c hc) }

/-- What is read instead is never longer. -/
theorem length_le_of_splitAuthority {host' : List Char} (hcolon : ':' ∉ digits)
    (hclosing : ']' ∉ digits)
    (hok : splitAuthority (displayHost host ++ ':' :: digits) = .ok (host', port)) :
    host'.length ≤ host.length := by
  by_cases h : StandsOut host
  · cases (h.splitAuthority_eq hcolon).symm.trans hok
    exact Nat.le_refl _
  · exact Nat.le_of_lt (length_lt_of_not_standsOut h hclosing hok)

/-- The host as it is left by the dropping of blanks. -/
def withoutBlanks (host : List Char) : List Char :=
  if ':' ∈ host then host else host.dropWhile Text.isBlank

theorem dropWhile_displayHost (host : List Char) :
    (displayHost host).dropWhile Text.isBlank = displayHost (withoutBlanks host) := by
  unfold withoutBlanks
  split
  · rename_i hcolon
    rw [displayHost, if_pos hcolon]
    rfl
  · rename_i hcolon
    rw [displayHost, if_neg hcolon, displayHost, if_neg]
    exact fun hmem => hcolon ((List.dropWhile_sublist _).subset hmem)

theorem withoutBlanks_eq (h : ':' ∉ host → ∀ c ∈ host.head?, Text.isBlank c = false) :
    withoutBlanks host = host := by
  unfold withoutBlanks
  split
  · rfl
  · rename_i hcolon
    cases host with
    | nil => rfl
    | cons c cs => exact List.dropWhile_cons_of_neg (by simp [h hcolon c rfl])

theorem length_withoutBlanks_lt
    (h : ¬(':' ∉ host → ∀ c ∈ host.head?, Text.isBlank c = false)) :
    (withoutBlanks host).length < host.length := by
  simp only [not_forall, Bool.not_eq_false] at h
  obtain ⟨hcolon, c, hc, hblank⟩ := h
  obtain ⟨cs, rfl⟩ := List.head?_eq_some_iff.1 hc
  rw [withoutBlanks, if_neg hcolon, List.dropWhile_cons_of_pos hblank]
  exact Nat.lt_succ_of_le (List.dropWhile_sublist _).length_le

/-! ### From text to authority -/

variable (e : EndPoint)

/-- The reader drops nothing of the colon and the port at the end. -/
theorem kept_of_mem_port {c : Char} (h : c ∈ ':' :: e.portDigits) :
    Text.isBlank c = false ∧ (c == '/') = false := by
  rcases List.mem_cons.1 h with rfl | hmem
  · exact ⟨rfl, rfl⟩
  · have hdigit := Text.isDigit_of_mem_toString hmem
    refine ⟨Text.isBlank_of_isDigit hdigit, beq_false_of_ne ?_⟩
    rintro rfl
    cases hdigit

theorem dropEndWhile_port (front : List Char) :
    Text.dropEndWhile (· == '/') (front ++ ':' :: e.portDigits) = front ++ ':' :: e.portDigits :=
  Text.dropEndWhile_append (List.cons_ne_nil _ _) fun _ hc => (e.kept_of_mem_port hc).2

theorem trim_port (front : List Char) : Text.trim (front ++ ':' :: e.portDigits)
    = front.dropWhile Text.isBlank ++ ':' :: e.portDigits :=
  Text.trim_append (List.cons_ne_nil _ _) fun _ hc => (e.kept_of_mem_port hc).1

/-- A text is read without the blanks in front of the host. -/
theorem parse_display : parse e.display
    = ofAuthority (displayHost (withoutBlanks e.host.toList) ++ ':' :: e.portDigits) := by
  rw [parse, toList_display, ofChars_eq]
  show ofAuthority (Text.dropEndWhile _ (dropScheme (Text.trim (_ ++ ':' :: e.portDigits)))) = _
  rw [trim_port, dropWhile_displayHost, dropScheme_displayHost (not_mem_portDigits rfl e),
    dropEndWhile_port]

/-- The address of a service is read without its scheme, behind which no blanks are dropped. -/
theorem parse_uri (tls : Bool) : parse (e.uri tls)
    = ofAuthority (displayHost e.host.toList ++ ':' :: e.portDigits) := by
  obtain ⟨scheme, htext, htrim, hdrop⟩ : ∃ scheme : List Char,
      (e.uri tls).toList = (scheme ++ displayHost e.host.toList) ++ ':' :: e.portDigits
        ∧ (∀ cs : List Char, (scheme ++ cs).dropWhile Text.isBlank = scheme ++ cs)
        ∧ ∀ cs : List Char, dropScheme (scheme ++ cs) = cs := by
    cases tls with
    | false =>
      refine ⟨"http://".toList, ?_, fun _ => rfl, dropScheme_http⟩
      simp [uri, toList_display, portDigits]
    | true =>
      refine ⟨"https://".toList, ?_, fun _ => rfl, dropScheme_https⟩
      simp [uri, toList_display, portDigits]
  rw [parse, htext, ofChars_eq, trim_port, htrim, List.append_assoc, hdrop, dropEndWhile_port]

variable {e}

/-- An endpoint that comes back from its text has a host that can be read back from there. -/
theorem isReadableInFront_of_parse {f : EndPoint} (hok : parse e.display = .ok f)
    (hhost : f.host = e.host) : IsReadableInFront e.host.toList := by
  rw [parse_display] at hok
  have hblank : ':' ∉ e.host.toList → ∀ c ∈ e.host.toList.head?,
      Text.isBlank c = false := by
    by_contra hnot
    -- blanks were dropped, so the host that was read is shorter
    obtain ⟨port, hsplit, -⟩ := ofAuthority_eq_ok_iff.1 hok
    have hle :=
      length_le_of_splitAuthority (not_mem_portDigits rfl e) (not_mem_portDigits rfl e) hsplit
    rw [hhost] at hle
    exact Nat.not_lt_of_le hle (length_withoutBlanks_lt hnot)
  rw [withoutBlanks_eq hblank] at hok
  exact { isReadable_of_ofAuthority hok hhost with begins_with_no_blank := hblank }

theorem parse_display_eq (h : IsReadableInFront e.host.toList) : parse e.display = .ok e := by
  rw [parse_display, withoutBlanks_eq h.begins_with_no_blank, ofAuthority_written h.toIsReadable]

/-- A text gives an endpoint back if it does so under the condition, and its host only then. -/
theorem ReadsBack.of_parse {text : String} {condition : Prop}
    (hok : condition → parse text = .ok e) (hhost : ∀ f, parse text = .ok f →
      f.host = e.host → condition) : ReadsBack text e condition where
  parse_eq_iff := ⟨fun h => hhost e h rfl, hok⟩
  host_ne hnot f h heq := hnot (hhost f h heq)

/-- **Written endpoints are read back** exactly if their hosts can be, and no other host is taken
for theirs. -/
theorem readsBack_written (e : EndPoint) : ReadsBack e.display e (IsReadableInFront e.host.toList)
    ∧ ∀ tls, ReadsBack (e.uri tls) e (IsReadable e.host.toList) := by
  refine ⟨.of_parse parse_display_eq fun _ => isReadableInFront_of_parse, fun tls => ?_⟩
  refine .of_parse (fun h => ?_) fun f hok => ?_
  · rw [parse_uri, ofAuthority_written h]
  · rw [parse_uri] at hok
    exact isReadable_of_ofAuthority hok

/-- A host loses the blank that it begins with. -/
example : parse (display ⟨" a", 1⟩) = .ok ⟨"a", 1⟩ := by cbv

end EndPoint

end ClusterLink
