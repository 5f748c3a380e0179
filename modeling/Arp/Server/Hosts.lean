import Arp.Common.Auth
import Arp.Lib.Lowercase
import Arp.Server.Vhost

/-!
# Host names and the keys of the route tables

A route is stored under a domain that `collect_domains` makes from the message
of the client, and looked up under what `normalize_host` makes of the host a
visitor asks for.  Both trim, drop trailing dots and lower the case, and
`normalize_host` also takes off brackets or a port, each step once and in that
order.  So a step can uncover what an earlier one would have taken off.

`HostText` says what the host part of a text is, independently of the code.
`normalize_host` returns the host part of the trimmed text but for the case
(`lowered_normalizeHost`); the texts it leaves as they are are the `Plain` ones.
-/

namespace Arp.Server

open Arp.Common Arp.Lib Arp.Lib.Text

/-! ## Host parts -/

/-- The host part of a trimmed text: the inside of a bracketed address, the
name before the only colon, or else the whole text. -/
inductive HostText : List Char → List Char → Prop
  | /-- A bracketed address: the closing brackets at the end are dropped. -/
    bracketed {host : List Char} (k : Nat) (hlast : host.getLast? ≠ some ']') :
      HostText ('[' :: (host ++ List.replicate k ']')) host
  | /-- A name followed by a port. -/
    withPort {name port : List Char} (hbr : (name ++ ':' :: port).head? ≠ some '[')
      (hname : ':' ∉ name) (hport : ':' ∉ port) : HostText (name ++ ':' :: port) name
  | /-- No bracket in front and not exactly one colon. -/
    plain {text : List Char} (hbr : text.head? ≠ some '[') (hcolon : text.count ':' ≠ 1) :
      HostText text text

/-- The characters `normalize_host` keeps of a trimmed text. -/
def hostOf (text : List Char) : List Char :=
  match text with
  | '[' :: stripped => stripped.rdropWhile (· == ']')
  | _ =>
    match rsplitOnceChars text ':' with
    | some (name, _) => if ':' ∈ name then text else name
    | none => text

theorem hostOf_bracketed (stripped : List Char) :
    hostOf ('[' :: stripped) = stripped.rdropWhile (· == ']') := rfl

theorem hostOf_of_head_ne {text : List Char} (h : text.head? ≠ some '[') :
    hostOf text =
      match rsplitOnceChars text ':' with
      | some (name, _) => if ':' ∈ name then text else name
      | none => text := by
  unfold hostOf
  split
  · exact absurd rfl h
  · rfl

/-- Without a bracket in front, the host part is the name before a single
colon, and the whole text otherwise. -/
theorem hostText_iff_of_head_ne {text host : List Char} (h : text.head? ≠ some '[') :
    HostText text host ↔ hostOf text = host := by
  rw [hostOf_of_head_ne h]
  constructor
  · intro ht
    cases ht with
    | bracketed k hlast => exact absurd rfl h
    | @withPort name port hbr hname hport =>
        rw [rsplitOnceChars_eq_some.mpr ⟨rfl, hport⟩]
        exact if_neg hname
    | plain hbr hcolon =>
        cases hs : rsplitOnceChars text ':' with
        | none => rfl
        | some p =>
            obtain ⟨name, port⟩ := p
            obtain ⟨rfl, hport⟩ := rsplitOnceChars_eq_some.mp hs
            refine if_pos ?_
            by_contra hname
            refine hcolon ?_
            rw [List.count_append, List.count_cons_self, List.count_eq_zero.mpr hname,
              List.count_eq_zero.mpr hport]
  · intro ht
    cases hs : rsplitOnceChars text ':' with
    | none =>
        rw [hs] at ht
        subst ht
        refine .plain h ?_
        rw [List.count_eq_zero.mpr (rsplitOnceChars_eq_none.mp hs)]
        decide
    | some p =>
        obtain ⟨name, port⟩ := p
        rw [hs] at ht
        obtain ⟨rfl, hport⟩ := rsplitOnceChars_eq_some.mp hs
        dsimp only at ht
        split at ht
        · next hname =>
            subst ht
            refine .plain h ?_
            have hpos : 0 < name.count ':' := List.count_pos_iff.mpr hname
            rw [List.count_append, List.count_cons_self]
            omega
        · next hname =>
            subst ht
            exact .withPort h hname hport

/-- `hostOf` computes the host part. -/
theorem hostText_iff {text host : List Char} : HostText text host ↔ hostOf text = host := by
  by_cases h : text.head? = some '['
  · obtain ⟨stripped, rfl⟩ : ∃ l, text = '[' :: l := by
      cases text with
      | nil => cases h
      | cons c l => exact ⟨l, by rw [Option.some.inj h]⟩
    rw [hostOf_bracketed, rdropWhile_eq_iff]
    constructor
    · intro ht
      generalize he : '[' :: stripped = text at ht
      cases ht with
      | bracketed k hlast => exact ⟨⟨k, (List.cons.inj he).2⟩, hlast⟩
      | withPort hbr hname hport => exact absurd (by rw [← he]; rfl) hbr
      | plain hbr hcolon => exact absurd (by rw [← he]; rfl) hbr
    · rintro ⟨⟨k, rfl⟩, hlast⟩
      exact .bracketed k hlast
  · exact hostText_iff_of_head_ne h

/-- What `normalize_host` of the virtual hosts keeps is the host part of the
text that `normalize_host` of the authenticator compares. -/
theorem toList_normalizeHost (U : UnicodeData) (host : String) :
    (normalizeHost U host).toList = hostOf (TokenAuth.normalizeHost U host).toList := by
  unfold normalizeHost
  dsimp only
  rw [← TokenAuth.normalizeHost.eq_1]
  generalize TokenAuth.normalizeHost U host = trimmed
  split
  · next stripped hs => rw [hs, hostOf_bracketed, toList_trimEndMatches, String.toList_ofList]
  · next hne =>
      rw [hostOf_of_head_ne fun hh ↦ by
        cases hl : trimmed.toList with
        | nil => rw [hl] at hh; cases hh
        | cons c l => rw [hl] at hh; exact hne l (by rw [hl, Option.some.inj hh])]
      unfold rsplitOnce
      cases rsplitOnceChars trimmed.toList ':' with
      | none => rfl
      | some p =>
          obtain ⟨name, port⟩ := p
          simp only [Option.map_some, String.toList_ofList]
          split <;> simp

theorem HostText.isInfix {text host : List Char} (h : HostText text host) : host <:+: text := by
  cases h with
  | bracketed k hlast => exact (List.prefix_append _ _).isInfix.trans (List.suffix_cons _ _).isInfix
  | withPort hbr hname hport => exact (List.prefix_append _ _).isInfix
  | plain hbr hcolon => exact List.infix_rfl

/-- A text is its own host part if it has no bracket in front and not exactly one colon. -/
theorem hostText_self {text : List Char} :
    HostText text text ↔ text.head? ≠ some '[' ∧ text.count ':' ≠ 1 := by
  have hself : ∀ host, HostText text host → text = host →
      text.head? ≠ some '[' ∧ text.count ':' ≠ 1 := by
    intro host h heq
    cases h with
    | bracketed k hlast =>
        have hlen := congrArg List.length heq
        rw [List.length_cons, List.length_append] at hlen
        omega
    | withPort hbr hname hport => exact absurd heq (by simp)
    | plain hbr hcolon => exact ⟨hbr, hcolon⟩
  constructor
  · intro h
    exact hself text h rfl
  · rintro ⟨hbr, hcolon⟩
    exact .plain hbr hcolon

/-! ## Trimming and case -/

/-- A text without white space around it and then without dots at its end. -/
def bareHost (l : List Char) : List Char :=
  ((l.dropWhile isWhitespace).rdropWhile isWhitespace).rdropWhile (· == '.')

theorem toList_tokenAuth_normalizeHost (U : UnicodeData) (host : String) :
    (TokenAuth.normalizeHost U host).toList = lowerChars U [] (bareHost host.toList) := by
  rw [TokenAuth.normalizeHost, toLowercase, String.toList_ofList, toList_trimEndMatches, trim,
    String.toList_ofList, bareHost]

/-- Which part of a text is its host does not depend on the case. -/
theorem HostText.lowered {U : UnicodeData} (hU : U.Lawful) {text host text' : List Char}
    (ht : HostText text host) (h : Lowered U text text') :
    ∃ host', HostText text' host' ∧ Lowered U host host' := by
  cases ht with
  | bracketed k hlast =>
      obtain ⟨m, rfl, hm⟩ := h.uncased_cons hU (by decide)
      obtain ⟨m₁, m₂, rfl, h₁, h₂⟩ := hm.append_inv
      have hbrackets : ∀ c ∈ List.replicate k ']', isUncased c = true := by
        intro c hc
        rw [List.eq_of_mem_replicate hc]
        decide
      obtain rfl := h₂.eq_of_uncased hU hbrackets
      refine ⟨m₁, .bracketed k ?_, h₁⟩
      rwa [ne_eq, h₁.getLast?_eq_some hU (by decide)]
  | withPort hbr hname hport =>
      rw [ne_eq, ← h.head?_eq_some hU (by decide)] at hbr
      obtain ⟨m₁, m, rfl, h₁, h'⟩ := h.append_inv
      obtain ⟨m₂, rfl, h₂⟩ := h'.uncased_cons hU (by decide)
      rw [← h₁.mem_iff hU (by decide)] at hname
      rw [← h₂.mem_iff hU (by decide)] at hport
      exact ⟨m₁, .withPort hbr hname hport, h₁⟩
  | plain hbr hcolon =>
      rw [ne_eq, ← h.head?_eq_some hU (by decide)] at hbr
      rw [← h.count_eq hU (by decide)] at hcolon
      exact ⟨text', .plain hbr hcolon, h⟩

/-- `normalize_host` returns the host part of the bare text but for the case. -/
theorem lowered_normalizeHost {U : UnicodeData} (hU : U.Lawful) (host : String) :
    Lowered U (hostOf (bareHost host.toList)) (normalizeHost U host).toList := by
  obtain ⟨host', ht, hl⟩ := (hostText_iff.mpr (Eq.refl (hostOf (bareHost host.toList)))).lowered hU
    (lowered_lowerChars [] _)
  rwa [toList_normalizeHost, toList_tokenAuth_normalizeHost, hostText_iff.mp ht]

/-! ## The texts that stay -/

/-- A text that begins neither with white space nor with a bracket, ends neither
with white space nor with a dot, and has not exactly one colon. -/
structure Plain (l : List Char) : Prop where
  head : ∀ c, l.head? = some c → isWhitespace c = false ∧ c ≠ '['
  last : ∀ c, l.getLast? = some c → isWhitespace c = false ∧ c ≠ '.'
  colons : l.count ':' ≠ 1

theorem bareHost_isInfix (l : List Char) : bareHost l <:+: l :=
  (((List.rdropWhile_prefix _ _).trans (List.rdropWhile_prefix _ _)).isInfix).trans
    (List.dropWhile_suffix _).isInfix

theorem rdropWhile_eq_self {p : Char → Bool} {l : List Char} :
    l.rdropWhile p = l ↔ ∀ c, l.getLast? = some c → p c = false := by
  rw [List.rdropWhile_eq_self_iff]
  constructor
  · intro h c hc
    obtain ⟨l', rfl⟩ := List.getLast?_eq_some_iff.mp hc
    simpa using h (by simp)
  · intro h hl
    simp [h _ (List.getLast?_eq_some_getLast hl)]

theorem dropWhile_eq_self {p : Char → Bool} {l : List Char} :
    l.dropWhile p = l ↔ ∀ c, l.head? = some c → p c = false := by
  cases l with
  | nil => simp
  | cons a l =>
      rw [List.dropWhile_eq_self_iff]
      simp

theorem bareHost_eq_self {l : List Char} : bareHost l = l ↔
    (∀ c, l.head? = some c → isWhitespace c = false) ∧
      ∀ c, l.getLast? = some c → isWhitespace c = false ∧ c ≠ '.' := by
  constructor
  · intro h
    have hstart : l.dropWhile isWhitespace = l := by
      refine (List.dropWhile_suffix _).eq_of_length_le ?_
      calc l.length = (bareHost l).length := by rw [h]
        _ ≤ _ := ((List.rdropWhile_prefix _ _).trans (List.rdropWhile_prefix _ _)).length_le
    rw [bareHost, hstart] at h
    have hend : l.rdropWhile isWhitespace = l := by
      refine (List.rdropWhile_prefix _ _).eq_of_length_le ?_
      calc l.length = ((l.rdropWhile isWhitespace).rdropWhile (· == '.')).length := by rw [h]
        _ ≤ _ := (List.rdropWhile_prefix _ _).length_le
    rw [hend] at h
    refine ⟨dropWhile_eq_self.mp hstart, fun c hc ↦ ⟨rdropWhile_eq_self.mp hend c hc, ?_⟩⟩
    simpa using rdropWhile_eq_self.mp h c hc
  · rintro ⟨hhead, hlast⟩
    rw [bareHost, dropWhile_eq_self.mpr hhead,
      rdropWhile_eq_self.mpr fun c hc ↦ (hlast c hc).1, rdropWhile_eq_self]
    intro c hc
    simpa using (hlast c hc).2

theorem hostOf_bareHost_eq_self {l : List Char} : hostOf (bareHost l) = l ↔ Plain l := by
  constructor
  · intro h
    have ht : HostText (bareHost l) l := hostText_iff.mpr h
    have hbare : bareHost l = l := (bareHost_isInfix l).eq_of_length_le ht.isInfix.length_le
    rw [hbare, hostText_self] at ht
    obtain ⟨hhead, hlast⟩ := bareHost_eq_self.mp hbare
    refine ⟨fun c hc ↦ ⟨hhead c hc, ?_⟩, hlast, ht.2⟩
    rintro rfl
    exact ht.1 hc
  · intro h
    have hbare := bareHost_eq_self.mpr ⟨fun c hc ↦ (h.head c hc).1, h.last⟩
    rw [hbare, ← hostText_iff, hostText_self]
    exact ⟨fun hc ↦ (h.head _ hc).2 rfl, h.colons⟩

instance (l : List Char) : Decidable (Plain l) := decidable_of_iff _ hostOf_bareHost_eq_self

/-- What is not said of an uncased character carries over. -/
theorem not_uncased_of_iff {o o' : Option Char} {a : Char} (ha : isUncased a = true)
    (h : ∀ c, isUncased c = true → (o = some c ↔ o' = some c))
    (ho : ∀ c, o = some c → isWhitespace c = false ∧ c ≠ a) :
    ∀ c, o' = some c → isWhitespace c = false ∧ c ≠ a := by
  intro c hc
  constructor
  · by_contra hspace
    have hu : isUncased c = true := by
      rw [isUncased, Bool.eq_true_of_not_eq_false hspace, Bool.true_or]
    exact hspace (ho c ((h c hu).mpr hc)).1
  · rintro rfl
    exact (ho c ((h c ha).mpr hc)).2 rfl

/-- Being plain is not a matter of case. -/
theorem plain_iff_of_lowered {U : UnicodeData} (hU : U.Lawful) {l m : List Char}
    (h : Lowered U l m) : Plain m ↔ Plain l := by
  have hhead : ∀ c, isUncased c = true → (m.head? = some c ↔ l.head? = some c) :=
    fun c ↦ h.head?_eq_some hU
  have hlast : ∀ c, isUncased c = true → (m.getLast? = some c ↔ l.getLast? = some c) :=
    fun c ↦ h.getLast?_eq_some hU
  have hcount : m.count ':' = l.count ':' := h.count_eq hU (by decide)
  constructor
  · intro hm
    exact ⟨not_uncased_of_iff (by decide) hhead hm.head,
      not_uncased_of_iff (by decide) hlast hm.last, hcount ▸ hm.colons⟩
  · intro hl
    exact ⟨not_uncased_of_iff (by decide) (fun c hc ↦ (hhead c hc).symm) hl.head,
      not_uncased_of_iff (by decide) (fun c hc ↦ (hlast c hc).symm) hl.last, hcount ▸ hl.colons⟩

/-- A text in lower case is normalized if and only if it is plain. -/
theorem normalizeHost_eq_self {U : UnicodeData} {d : String}
    (hd : ∀ c ∈ d.toList, c ≠ 'Σ' ∧ U.lower c = [c]) : normalizeHost U d = d ↔ Plain d.toList := by
  have hbare : ∀ c ∈ bareHost d.toList, c ≠ 'Σ' ∧ U.lower c = [c] :=
    fun c hc ↦ hd c ((bareHost_isInfix _).subset hc)
  rw [← String.toList_inj, toList_normalizeHost, toList_tokenAuth_normalizeHost,
    lowerChars_of_lower hbare]
  exact hostOf_bareHost_eq_self

/-- What `normalize_host` returns is normalized if and only if the text of the host is plain. -/
theorem normalizeHost_normalizeHost {U : UnicodeData} (hU : U.Lawful) (host : String) :
    normalizeHost U (normalizeHost U host) = normalizeHost U host ↔
      Plain (hostOf (bareHost host.toList)) := by
  have h := lowered_normalizeHost hU host
  rw [normalizeHost_eq_self (h.lower_eq hU), plain_iff_of_lowered hU h]

theorem normalizeHost_empty (U : UnicodeData) : normalizeHost U "" = "" := by
  rw [← String.toList_inj, toList_normalizeHost, toList_tokenAuth_normalizeHost]
  rfl

/-! ## Spelling out the port -/

/-- A name: neither an address in brackets nor followed by a port. -/
def IsName (h : String) : Prop := ':' ∉ h.toList ∧ '[' ∉ h.toList

instance (h : String) : Decidable (IsName h) := inferInstanceAs (Decidable (_ ∧ _))

/-- An address in brackets. -/
def IsBracketed (h : String) : Prop := ∃ addr, h.toList = '[' :: (addr ++ [']'])

theorem getLast?_append_port {q : List Char} (hq : ∀ c ∈ q, c.isDigit = true) (x : List Char) :
    ∀ c, (x ++ ':' :: q).getLast? = some c → isWhitespace c = false ∧ c ≠ '.' ∧ c ≠ ']' := by
  intro c hc
  rw [List.getLast?_append_of_ne_nil _ (List.cons_ne_nil _ _)] at hc
  rcases List.mem_cons.mp (List.mem_of_getLast? hc) with rfl | hc
  · decide
  · have hdigit := hq c hc
    refine ⟨(isUncased_of_isDigit hdigit).2, ?_, ?_⟩ <;>
      rintro rfl <;> exact absurd hdigit (by decide)

/-- Only white space in front is trimmed when a port follows. -/
theorem bareHost_append_port {q : List Char} (hq : ∀ c ∈ q, c.isDigit = true) (l : List Char) :
    bareHost (l ++ ':' :: q) = l.dropWhile isWhitespace ++ ':' :: q := by
  have hstart : (l ++ ':' :: q).dropWhile isWhitespace = l.dropWhile isWhitespace ++ ':' :: q := by
    rw [List.dropWhile_append]
    split
    · next hnil => rw [List.isEmpty_iff.mp hnil]; rfl
    · rfl
  have hlast := getLast?_append_port hq (l.dropWhile isWhitespace)
  rw [bareHost, hstart, rdropWhile_eq_self.mpr fun c hc ↦ (hlast c hc).1, rdropWhile_eq_self]
  intro c hc
  simpa using (hlast c hc).2.1

/-- A host whose text goes on further is normalized to something else. -/
theorem normalizeHost_ne_of_append {U : UnicodeData} (hU : U.Lawful) {h h' : String}
    {e : List Char} (he : e ≠ [])
    (htext : hostOf (bareHost h'.toList) = hostOf (bareHost h.toList) ++ e) :
    normalizeHost U h' ≠ normalizeHost U h := by
  intro heq
  have hl := lowered_normalizeHost hU h'
  rw [htext, heq] at hl
  obtain ⟨m₁, m₂, hm, h₁, h₂⟩ := hl.append_inv
  have hlen := h₁.length_eq (lowered_normalizeHost hU h)
  have hpos := List.length_pos_iff.mpr (h₂.ne_nil hU he)
  rw [hm, List.length_append] at hlen
  omega

theorem toList_append_port (h p : String) :
    (h ++ ":" ++ p).toList = h.toList ++ ':' :: p.toList := by
  rw [String.toList_append, String.toList_append, List.append_assoc]
  rfl

theorem colon_notMem_port {q : List Char} (hq : ∀ c ∈ q, c.isDigit = true) : ':' ∉ q :=
  fun h ↦ absurd (hq _ h) (by decide)

/-- Without colon and bracket the host part is the whole text. -/
theorem hostText_of_notMem {l : List Char} (hcolon : ':' ∉ l) (hbr : '[' ∉ l) : HostText l l := by
  refine .plain (fun h ↦ hbr (List.mem_of_head? h)) ?_
  rw [List.count_eq_zero_of_not_mem hcolon]
  exact Nat.zero_ne_one

/-- A name in front of a port. -/
theorem hostText_append_port {l q : List Char} (hcolon : ':' ∉ l) (hbr : '[' ∉ l) (hq : ':' ∉ q) :
    HostText (l ++ ':' :: q) l := by
  refine .withPort ?_ hcolon hq
  intro h
  cases l with
  | nil => exact absurd (Option.some.inj h) (by decide)
  | cons c l => exact hbr (List.mem_of_head? h)

/-- The port of a name is taken off for nothing if and only if nothing is to be
trimmed at the end of the name. -/
theorem normalizeHost_name_port {U : UnicodeData} (hU : U.Lawful) {h p : String}
    (hp : ∀ c ∈ p.toList, c.isDigit = true) (hname : IsName h) :
    normalizeHost U (h ++ ":" ++ p) = normalizeHost U h ↔
      bareHost h.toList = h.toList.dropWhile isWhitespace := by
  have hsub : ∀ c, c ∈ h.toList.dropWhile isWhitespace → c ∈ h.toList :=
    fun c hc ↦ (List.dropWhile_suffix _).subset hc
  have hx : ':' ∉ h.toList.dropWhile isWhitespace ∧ '[' ∉ h.toList.dropWhile isWhitespace :=
    ⟨fun hc ↦ hname.1 (hsub _ hc), fun hc ↦ hname.2 (hsub _ hc)⟩
  have hport := colon_notMem_port hp
  have hbare : HostText (bareHost h.toList) (bareHost h.toList) :=
    hostText_of_notMem (fun hc ↦ hname.1 ((bareHost_isInfix _).subset hc))
      (fun hc ↦ hname.2 ((bareHost_isInfix _).subset hc))
  constructor
  · intro heq
    have hpre : bareHost h.toList <+: h.toList.dropWhile isWhitespace :=
      (List.rdropWhile_prefix _ _).trans (List.rdropWhile_prefix _ _)
    obtain ⟨e, he⟩ := hpre
    by_cases hnil : e = []
    · rw [← he, hnil, List.append_nil]
    · refine absurd heq (normalizeHost_ne_of_append hU hnil ?_)
      rw [toList_append_port, bareHost_append_port hp,
        hostText_iff.mp (hostText_append_port hx.1 hx.2 hport), hostText_iff.mp hbare, he]
  · intro heq
    have hmem : ∀ a, isUncased a = true → a ∉ bareHost h.toList →
        a ∉ lowerChars U [] (bareHost h.toList) := by
      intro a ha hn
      rwa [(lowered_lowerChars [] _).mem_iff hU ha]
    have huncased : ∀ c ∈ ':' :: p.toList, isUncased c = true := by
      intro c hc
      rcases List.mem_cons.mp hc with rfl | hc
      · decide
      · exact (isUncased_of_isDigit (hp c hc)).1
    rw [← heq] at hx
    have hcolon := hmem ':' (by decide) hx.1
    have hbr := hmem '[' (by decide) hx.2
    rw [← String.toList_inj, toList_normalizeHost, toList_normalizeHost,
      toList_tokenAuth_normalizeHost, toList_tokenAuth_normalizeHost, toList_append_port,
      bareHost_append_port hp, ← heq, lowerChars_append hU huncased,
      hostText_iff.mp (hostText_append_port hcolon hbr hport),
      hostText_iff.mp (hostText_of_notMem hcolon hbr)]

/-- The port of an address in brackets is never taken off. -/
theorem normalizeHost_bracketed_port {U : UnicodeData} (hU : U.Lawful) {h p : String}
    (hp : ∀ c ∈ p.toList, c.isDigit = true) (hbr : IsBracketed h) :
    normalizeHost U (h ++ ":" ++ p) ≠ normalizeHost U h := by
  obtain ⟨addr, hh⟩ := hbr
  have hstart : h.toList.dropWhile isWhitespace = h.toList := by
    rw [hh]
    rfl
  have hbare : bareHost h.toList = h.toList := by
    refine bareHost_eq_self.mpr ⟨dropWhile_eq_self.mp hstart, fun c hc ↦ ?_⟩
    have hlast : h.toList.getLast? = some ']' := by
      rw [hh, ← List.cons_append, List.getLast?_concat]
    obtain rfl := Option.some.inj (hlast.symm.trans hc)
    decide
  have hhost : hostOf h.toList = addr.rdropWhile (· == ']') := by
    rw [hh, hostOf_bracketed, List.rdropWhile_concat_pos _ _ _ (by decide)]
  obtain ⟨e, he⟩ := List.rdropWhile_prefix (· == ']') addr
  refine normalizeHost_ne_of_append hU (e := e ++ ']' :: ':' :: p.toList) (by simp) ?_
  have hrest : (addr ++ [']'] ++ ':' :: p.toList).rdropWhile (· == ']') =
      addr ++ [']'] ++ ':' :: p.toList := by
    refine rdropWhile_eq_self.mpr fun c hc ↦ ?_
    simpa using (getLast?_append_port hp (addr ++ [']']) c hc).2.2
  rw [toList_append_port, bareHost_append_port hp, hstart, hbare, hhost, ← List.append_assoc, he,
    hh, List.cons_append, hostOf_bracketed, hrest, List.append_assoc, List.singleton_append]

theorem isBlank_iff {s : String} : isBlank s = true ↔ s.toList.dropWhile isWhitespace = [] := by
  rw [isBlank, trim, String.isEmpty_iff, ← String.toList_inj, String.toList_ofList,
    String.toList_empty, List.rdropWhile_eq_nil_iff]
  constructor
  · intro h
    cases hx : s.toList.dropWhile isWhitespace with
    | nil => rfl
    | cons c l =>
        have hspace := h c (hx ▸ List.mem_cons_self)
        have hne : s.toList.dropWhile isWhitespace ≠ [] := by rw [hx]; exact List.cons_ne_nil _ _
        have := List.head_dropWhile_not isWhitespace hne
        simp only [hx, List.head_cons] at this
        rw [hspace] at this
        cases this
  · intro h c hc
    rw [h] at hc
    cases hc

/-- Nothing is to be trimmed at the end of a text: it is blank, or ends neither
in white space nor in a dot. -/
theorem bareHost_eq_dropWhile {h : String} :
    bareHost h.toList = h.toList.dropWhile isWhitespace ↔ isBlank h = true ∨
      ∀ c, h.toList.getLast? = some c → isWhitespace c = false ∧ c ≠ '.' := by
  have hidem := List.dropWhile_idempotent isWhitespace h.toList
  have hbare : bareHost h.toList = bareHost (h.toList.dropWhile isWhitespace) := by
    rw [bareHost, bareHost, hidem]
  rw [hbare, bareHost_eq_self, isBlank_iff]
  obtain ⟨t, ht⟩ := List.dropWhile_suffix (l := h.toList) isWhitespace
  by_cases hx : h.toList.dropWhile isWhitespace = []
  · rw [hx]
    simp
  · have hlast : h.toList.getLast? = (h.toList.dropWhile isWhitespace).getLast? := by
      nth_rewrite 1 [← ht]
      exact List.getLast?_append_of_ne_nil _ hx
    rw [hlast]
    constructor
    · rintro ⟨-, h⟩
      exact .inr h
    · rintro (h | h)
      · exact absurd h hx
      · exact ⟨dropWhile_eq_self.mp hidem, h⟩

/-- For a name or an address in brackets, spelling out the port changes nothing
if and only if it is a name with nothing to trim at its end. -/
theorem normalizeHost_port {U : UnicodeData} (hU : U.Lawful) {h p : String}
    (hp : ∀ c ∈ p.toList, c.isDigit = true) (hh : IsName h ∨ IsBracketed h) :
    normalizeHost U (h ++ ":" ++ p) = normalizeHost U h ↔
      IsName h ∧ (isBlank h = true ∨
        ∀ c, h.toList.getLast? = some c → isWhitespace c = false ∧ c ≠ '.') := by
  rw [← bareHost_eq_dropWhile]
  constructor
  · intro heq
    rcases hh with hname | hbr
    · exact ⟨hname, (normalizeHost_name_port hU hp hname).mp heq⟩
    · exact absurd heq (normalizeHost_bracketed_port hU hp hbr)
  · rintro ⟨hname, hbare⟩
    exact (normalizeHost_name_port hU hp hname).mpr hbare

/-- A fully qualified name keeps its dot when a port follows, and an address in
brackets its closing bracket and the port. -/
theorem normalizeHost_port_kept :
    normalizeHost .ascii ("example.com." ++ ":" ++ "80") = "example.com." ∧
      normalizeHost .ascii "example.com." = "example.com" ∧
      normalizeHost .ascii ("[::1]" ++ ":" ++ "80") = "::1]:80" ∧
      normalizeHost .ascii "[::1]" = "::1" := by
  decide +kernel

theorem normalizeHost_port_dropped :
    normalizeHost .ascii ("Example.COM" ++ ":" ++ "80") = normalizeHost .ascii "Example.COM" := by
  have hname : IsName "Example.COM" := by decide +kernel
  have hport : ∀ c ∈ "80".toList, c.isDigit = true := List.all_eq_true.mp (by decide +kernel)
  refine (normalizeHost_port UnicodeData.ascii_lawful hport (.inl hname)).mpr
    ⟨hname, .inr fun c hc ↦ ?_⟩
  obtain rfl : 'M' = c := Option.some.inj hc
  decide

/-! ## The keys of the route tables -/

namespace VhostManager

theorem mem_collectDomains {U : UnicodeData} {vm : VhostManager} {msg : NewProxyMsg}
    {domains : List String} (h : vm.collectDomains U msg = .ok domains) {d : String} :
    d ∈ domains ↔ d ∈ customDomains U msg ∨ isBlank msg.subdomain = false ∧
      d = toLowercase U (trim msg.subdomain) ++ "." ++ vm.subdomainHost := by
  have finish {l : List String}
      (h : (if (dedupAdjacent (l.insertionSort (· ≤ ·))).isEmpty then
          (.error (.proxy "http/https proxy requires custom_domains or subdomain") : Result _)
        else .ok (dedupAdjacent (l.insertionSort (· ≤ ·)))) = .ok domains) :
      d ∈ domains ↔ d ∈ l := by
    split at h
    · cases h
    · obtain rfl := Except.ok.inj h
      rw [mem_dedupAdjacent, List.mem_insertionSort]
  simp only [collectDomains] at h
  split at h
  · next hblank => rw [finish h, hblank]; simp
  · next hblank =>
      split at h
      · cases h
      · rw [finish h, Bool.eq_false_of_not_eq_true hblank, List.mem_append, List.mem_singleton]
        simp

/-- The domain made of a subdomain is a lowered form of the texts it is made of. -/
theorem lowered_subdomain {U : UnicodeData} (hU : U.Lawful) (setting subdomain : String)
    (httpPort httpsPort : UInt16) :
    Lowered U ((trim subdomain).toList ++ '.' :: bareHost setting.toList)
      (toLowercase U (trim subdomain) ++ "." ++
        (new U setting httpPort httpsPort).subdomainHost).toList := by
  rw [String.toList_append, String.toList_append, List.append_assoc]
  refine Lowered.append ?_ (.cons_uncased hU (by decide) ?_)
  · rw [toLowercase, String.toList_ofList]
    exact lowered_lowerChars _ _
  · rw [new, toLowercase, String.toList_ofList, toList_trimEndMatches, trim, String.toList_ofList]
    exact lowered_lowerChars _ _

/-- Every domain `collect_domains` returns is normalized if and only if the host
part of each custom domain is plain and, if there is a subdomain, so is the text of
it and of the subdomain host together. -/
theorem normalizeHost_collectDomains {U : UnicodeData} (hU : U.Lawful) {setting : String}
    {httpPort httpsPort : UInt16} {msg : NewProxyMsg} {domains : List String}
    (h : (new U setting httpPort httpsPort).collectDomains U msg = .ok domains) :
    (∀ d ∈ domains, normalizeHost U d = d) ↔
      (∀ c ∈ msg.customDomains, ∀ host, HostText (bareHost c.toList) host → Plain host) ∧
        (isBlank msg.subdomain = false →
          Plain ((trim msg.subdomain).toList ++ '.' :: bareHost setting.toList)) := by
  have hsub := lowered_subdomain hU setting msg.subdomain httpPort httpsPort
  have hkey := normalizeHost_eq_self (hsub.lower_eq hU)
  rw [plain_iff_of_lowered hU hsub] at hkey
  constructor
  · intro hall
    constructor
    · intro c hc host hhost
      rw [← hostText_iff.mp hhost, ← normalizeHost_normalizeHost hU]
      by_cases hempty : normalizeHost U c = ""
      · rw [hempty, normalizeHost_empty]
      · refine hall _ ((mem_collectDomains h).mpr (.inl (List.mem_filter.mpr ⟨?_, ?_⟩)))
        · exact List.mem_map_of_mem hc
        · simpa using hempty
    · intro hblank
      exact hkey.mp (hall _ ((mem_collectDomains h).mpr (.inr ⟨hblank, rfl⟩)))
  · rintro ⟨hcustom, hplain⟩ d hd
    rcases (mem_collectDomains h).mp hd with hd | ⟨hblank, rfl⟩
    · obtain ⟨c, hc, rfl⟩ := List.mem_map.mp (List.mem_of_mem_filter hd)
      exact (normalizeHost_normalizeHost hU c).mpr (hcustom c hc _ (hostText_iff.mpr rfl))
    · exact hkey.mpr (hplain hblank)

end VhostManager

/-- An HTTP proxy for one custom domain. -/
def tenantMsg (domain : String) : NewProxyMsg where
  proxyName := "web"
  proxyType := "http"
  useEncryption := false
  useCompression := false
  localIp := "127.0.0.1"
  localPort := 8080
  remotePort := 0
  customDomains := [domain]
  subdomain := ""
  locations := []
  hostHeaderRewrite := ""
  sk := ""
  multiplexer := ""
  fallbackToRelay := true
  extra := .object []

/-- A domain with a dot before its port is stored under a key with the dot, and a
subdomain with a colon under a key with the colon; both are looked up without. -/
theorem collectDomains_not_normalized :
    VhostManager.collectDomains .ascii (.new .ascii "" 8080 0) (tenantMsg "example.com.:80") =
        .ok ["example.com."] ∧
      normalizeHost .ascii "example.com." = "example.com" ∧
      VhostManager.collectDomains .ascii (.new .ascii "example.com" 8080 0)
          { tenantMsg "" with subdomain := "app:1" } = .ok ["app:1.example.com"] ∧
      normalizeHost .ascii "app:1.example.com" = "app" := by
  decide +kernel

theorem collectDomains_normalized :
    normalizeHost .ascii "app.example.com" = "app.example.com" ∧
      normalizeHost .ascii "example.com" = "example.com" := by
  have hok : VhostManager.collectDomains .ascii (.new .ascii "Example.com." 8080 0)
      { tenantMsg "[Example.com]" with subdomain := "App" } =
        .ok ["app.example.com", "example.com"] := by decide +kernel
  have hall := (VhostManager.normalizeHost_collectDomains UnicodeData.ascii_lawful hok).mpr
    ⟨fun c hc host hhost ↦ by
      obtain rfl := List.mem_singleton.mp hc
      rw [← hostText_iff.mp hhost]
      decide +kernel, fun _ ↦ by decide +kernel⟩
  exact ⟨hall _ List.mem_cons_self, hall _ (List.mem_cons_of_mem _ List.mem_cons_self)⟩

end Arp.Server
