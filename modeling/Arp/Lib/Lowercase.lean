import Arp.Lib.Text

/-!
# Lower-casing a text

`to_lowercase` is not a map over characters: a capital sigma looks at its
neighbours.  `Lowered` forgets which of the two small sigmas was chosen, and
with it the neighbours, so that a text can be cut and each part followed on its
own.  Characters without case (white space, the digits and punctuation of ASCII)
go through unchanged and nothing else turns into one; hence whatever is said of
a text in terms of them alone is said of its lower-case form as well.
-/

namespace Arp.Lib.Text

/-- White space, and the ASCII characters that are no letters. -/
def isUncased (c : Char) : Bool := isWhitespace c || (c.toNat < 128 && !c.isAlpha)

/-- What all versions of the Unicode character database have in common beside
the ASCII part of the mapping. -/
structure UnicodeData.Lawful (U : UnicodeData) : Prop where
  /-- White space, digits and punctuation are not `Cased`. -/
  cased : ∀ c, isUncased c = true → U.cased c = false
  /-- They have no lower-case mapping. -/
  lower_uncased : ∀ c, isUncased c = true → U.lower c = [c]
  /-- They are the lower-case mapping of nothing else. -/
  eq_of_mem_lower : ∀ c d, c ≠ 'Σ' → d ∈ U.lower c → isUncased d = true → c = d
  /-- A mapping yields one character at least. -/
  lower_ne_nil : ∀ c, U.lower c ≠ []
  /-- What a mapping yields is in lower case. -/
  lower_lower : ∀ c d, c ≠ 'Σ' → d ∈ U.lower c → d ≠ 'Σ' ∧ U.lower d = [d]
  /-- So are the two small sigmas. -/
  lower_sigma : ∀ d, d = 'σ' ∨ d = 'ς' → U.lower d = [d]

theorem isUpper_iff {c : Char} : c.isUpper = true ↔ 65 ≤ c.toNat ∧ c.toNat ≤ 90 := by
  change decide (_ ∧ _) = true ↔ _
  rw [decide_eq_true_iff]
  exact and_congr UInt32.le_iff_toNat_le UInt32.le_iff_toNat_le

theorem isLower_iff {c : Char} : c.isLower = true ↔ 97 ≤ c.toNat ∧ c.toNat ≤ 122 := by
  change (decide _ && decide _) = true ↔ _
  rw [Bool.and_eq_true, decide_eq_true_iff, decide_eq_true_iff]
  exact and_congr UInt32.le_iff_toNat_le UInt32.le_iff_toNat_le

theorem isDigit_iff {c : Char} : c.isDigit = true ↔ 48 ≤ c.toNat ∧ c.toNat ≤ 57 := by
  change (decide _ && decide _) = true ↔ _
  rw [Bool.and_eq_true, decide_eq_true_iff, decide_eq_true_iff]
  exact and_congr UInt32.le_iff_toNat_le UInt32.le_iff_toNat_le

theorem isAlpha_iff {c : Char} : c.isAlpha = true ↔ c.isUpper = true ∨ c.isLower = true := by
  change (_ || _) = true ↔ _
  rw [Bool.or_eq_true]

theorem toLower_of_isUpper_eq_false {c : Char} (h : c.isUpper = false) : c.toLower = c :=
  dif_neg (of_decide_eq_false h)

theorem isLower_toLower {c : Char} (h : c.isUpper = true) : c.toLower.isLower = true := by
  have hlower : c.toLower = ⟨c.val + ('a'.val - 'A'.val), _⟩ := dif_pos (of_decide_eq_true h)
  have hc := isUpper_iff.mp h
  rw [isLower_iff, hlower]
  change 97 ≤ (c.val + 32).toNat ∧ (c.val + 32).toNat ≤ 122
  rw [UInt32.toNat_add]
  change 97 ≤ (c.toNat + 32) % 4294967296 ∧ (c.toNat + 32) % 4294967296 ≤ 122
  omega

theorem isUpper_of_isLower {c : Char} (h : c.isLower = true) : c.isUpper = false := by
  by_contra hc
  have hupper := isUpper_iff.mp (eq_true_of_ne_false hc)
  have hlower := isLower_iff.mp h
  omega

/-- No visible ASCII character is white space. -/
theorem isWhitespace_eq_false {c : Char} (h : 33 ≤ c.toNat ∧ c.toNat ≤ 126) :
    isWhitespace c = false := by
  simp only [isWhitespace, Bool.or_eq_false_iff, Bool.and_eq_false_iff, decide_eq_false_iff_not,
    beq_eq_false_iff_ne]
  omega

/-- A letter of ASCII is cased. -/
theorem isUncased_of_isAlpha {c : Char} (h : c.isAlpha = true) : isUncased c = false := by
  have hc : 33 ≤ c.toNat ∧ c.toNat ≤ 126 := by
    rcases isAlpha_iff.mp h with h | h
    · have := isUpper_iff.mp h
      omega
    · have := isLower_iff.mp h
      omega
  rw [isUncased, isWhitespace_eq_false hc, h]
  simp

/-- A digit is neither white space nor a letter. -/
theorem isUncased_of_isDigit {c : Char} (h : c.isDigit = true) :
    isUncased c = true ∧ isWhitespace c = false := by
  have hc := isDigit_iff.mp h
  have hspace : isWhitespace c = false := isWhitespace_eq_false (by omega)
  have halpha : c.isAlpha = false := by
    by_contra hn
    rcases isAlpha_iff.mp (eq_true_of_ne_false hn) with hn | hn
    · have := isUpper_iff.mp hn
      omega
    · have := isLower_iff.mp hn
      omega
  refine ⟨?_, hspace⟩
  rw [isUncased, hspace, halpha, decide_eq_true (by omega)]
  rfl

/-- The tables cut down to ASCII are lawful. -/
theorem UnicodeData.ascii_lawful : UnicodeData.ascii.Lawful where
  cased c h := by
    by_contra hc
    rw [isUncased_of_isAlpha (by simpa [ascii] using hc)] at h
    cases h
  lower_uncased c h := by
    cases hc : c.isUpper with
    | true =>
        rw [isUncased_of_isAlpha (isAlpha_iff.mpr (.inl hc))] at h
        cases h
    | false => exact congrArg (fun d ↦ [d]) (toLower_of_isUpper_eq_false hc)
  eq_of_mem_lower c d _ hd h := by
    obtain rfl := List.mem_singleton.mp hd
    cases hc : c.isUpper with
    | true =>
        rw [isUncased_of_isAlpha (isAlpha_iff.mpr (.inr (isLower_toLower hc)))] at h
        cases h
    | false => exact (toLower_of_isUpper_eq_false hc).symm
  lower_ne_nil _ := List.cons_ne_nil _ _
  lower_lower c d hc hd := by
    obtain rfl := List.mem_singleton.mp hd
    cases hu : c.isUpper with
    | true =>
        have hl := isLower_toLower hu
        refine ⟨?_, ?_⟩
        · rintro heq
          rw [heq] at hl
          exact absurd hl (by decide)
        · exact congrArg (fun d ↦ [d]) (toLower_of_isUpper_eq_false (isUpper_of_isLower hl))
    | false =>
        rw [toLower_of_isUpper_eq_false hu]
        exact ⟨hc, congrArg (fun d ↦ [d]) (toLower_of_isUpper_eq_false hu)⟩
  lower_sigma d hd := by rcases hd with rfl | rfl <;> decide

variable {U : UnicodeData}

/-- `Lowered U l m`: the text `l` with every character replaced by its lower-case
mapping is `m`, whatever the choice at each capital sigma. -/
inductive Lowered (U : UnicodeData) : List Char → List Char → Prop where
  | nil : Lowered U [] []
  | sigma {d : Char} {l m : List Char} (hd : d = 'σ' ∨ d = 'ς') (h : Lowered U l m) :
      Lowered U ('Σ' :: l) (d :: m)
  | cons {c : Char} {l m : List Char} (hc : c ≠ 'Σ') (h : Lowered U l m) :
      Lowered U (c :: l) (U.lower c ++ m)

theorem lowered_lowerChars (before l : List Char) : Lowered U l (lowerChars U before l) := by
  induction l generalizing before with
  | nil => exact .nil
  | cons c l ih =>
      rw [lowerChars]
      by_cases hc : c = 'Σ'
      · subst hc
        rw [if_pos rfl]
        refine .sigma ?_ (ih _)
        split
        · exact .inr rfl
        · exact .inl rfl
      · rw [if_neg hc]
        exact .cons hc (ih _)

namespace Lowered

variable {l m : List Char} {a : Char}

/-- The parts of a text are lowered part by part. -/
theorem append_inv {l₁ l₂ : List Char} (h : Lowered U (l₁ ++ l₂) m) :
    ∃ m₁ m₂, m = m₁ ++ m₂ ∧ Lowered U l₁ m₁ ∧ Lowered U l₂ m₂ := by
  induction l₁ generalizing m with
  | nil => exact ⟨[], m, rfl, .nil, h⟩
  | cons c l₁ ih =>
      cases h with
      | sigma hd h =>
          obtain ⟨m₁, m₂, rfl, h₁, h₂⟩ := ih h
          exact ⟨_ :: m₁, m₂, rfl, .sigma hd h₁, h₂⟩
      | cons hc h =>
          obtain ⟨m₁, m₂, rfl, h₁, h₂⟩ := ih h
          exact ⟨U.lower c ++ m₁, m₂, (List.append_assoc _ _ _).symm, .cons hc h₁, h₂⟩

theorem append {l₁ l₂ m₁ m₂ : List Char} (h₁ : Lowered U l₁ m₁) (h₂ : Lowered U l₂ m₂) :
    Lowered U (l₁ ++ l₂) (m₁ ++ m₂) := by
  induction h₁ with
  | nil => exact h₂
  | sigma hd _ ih => exact .sigma hd ih
  | cons hc _ ih =>
      rw [List.append_assoc]
      exact .cons hc ih

/-- The length does not depend on the choice of a sigma. -/
theorem length_eq {m' : List Char} (h : Lowered U l m) (h' : Lowered U l m') :
    m.length = m'.length := by
  induction h generalizing m' with
  | nil => cases h'; rfl
  | sigma _ _ ih =>
      cases h' with
      | sigma _ h' => rw [List.length_cons, List.length_cons, ih h']
      | cons hc _ => exact absurd rfl hc
  | cons hc _ ih =>
      cases h' with
      | sigma _ _ => exact absurd rfl hc
      | cons _ h' => rw [List.length_append, List.length_append, ih h']

theorem ne_nil (hU : U.Lawful) (h : Lowered U l m) (hl : l ≠ []) : m ≠ [] := by
  cases h with
  | nil => exact hl
  | sigma _ _ => exact List.cons_ne_nil _ _
  | cons _ _ => exact List.append_ne_nil_of_left_ne_nil (hU.lower_ne_nil _) _

/-- Nothing is left to lower. -/
theorem lower_eq (hU : U.Lawful) (h : Lowered U l m) : ∀ d ∈ m, d ≠ 'Σ' ∧ U.lower d = [d] := by
  induction h with
  | nil =>
      intro d hd
      cases hd
  | sigma hd _ ih =>
      intro d hmem
      rcases List.mem_cons.mp hmem with rfl | hmem
      · refine ⟨?_, hU.lower_sigma d hd⟩
        rcases hd with rfl | rfl <;> decide
      · exact ih d hmem
  | cons hc _ ih =>
      intro d hmem
      rcases List.mem_append.mp hmem with hmem | hmem
      · exact hU.lower_lower _ d hc hmem
      · exact ih d hmem

/-- An uncased character at the front goes through. -/
theorem uncased_cons (hU : U.Lawful) (ha : isUncased a = true) (h : Lowered U (a :: l) m) :
    ∃ m', m = a :: m' ∧ Lowered U l m' := by
  cases h with
  | sigma _ _ => exact absurd ha (by decide)
  | cons _ h => exact ⟨_, by rw [hU.lower_uncased a ha, List.singleton_append], h⟩

theorem cons_uncased (hU : U.Lawful) (ha : isUncased a = true) (h : Lowered U l m) :
    Lowered U (a :: l) (a :: m) := by
  have hne : a ≠ 'Σ' := by
    rintro rfl
    exact absurd ha (by decide)
  have := Lowered.cons hne h
  rwa [hU.lower_uncased a ha, List.singleton_append] at this

/-- A text of uncased characters goes through. -/
theorem eq_of_uncased (hU : U.Lawful) (hl : ∀ c ∈ l, isUncased c = true) (h : Lowered U l m) :
    m = l := by
  induction l generalizing m with
  | nil => cases h; rfl
  | cons c l ih =>
      obtain ⟨m, rfl, hm⟩ := h.uncased_cons hU (hl c List.mem_cons_self)
      rw [ih (fun d hd ↦ hl d (List.mem_cons_of_mem _ hd)) hm]

theorem head?_eq_some (hU : U.Lawful) (ha : isUncased a = true) (h : Lowered U l m) :
    m.head? = some a ↔ l.head? = some a := by
  cases h with
  | nil => rfl
  | sigma hd _ =>
      constructor
      · intro h
        obtain rfl := Option.some.inj h
        rcases hd with rfl | rfl <;> exact absurd ha (by decide)
      · intro h
        obtain rfl := Option.some.inj h
        exact absurd ha (by decide)
  | @cons c l m hc _ =>
      rw [List.head?_append_of_ne_nil _ (hU.lower_ne_nil c), List.head?_cons, Option.some_inj]
      constructor
      · intro h
        exact hU.eq_of_mem_lower c a hc (List.mem_of_head? h) ha
      · rintro rfl
        rw [hU.lower_uncased c ha]
        rfl

theorem getLast?_eq_some (hU : U.Lawful) (ha : isUncased a = true) (h : Lowered U l m) :
    m.getLast? = some a ↔ l.getLast? = some a := by
  induction h with
  | nil => rfl
  | @sigma d l m hd h ih =>
      cases h with
      | nil =>
          simp only [List.getLast?_singleton, Option.some_inj]
          constructor
          · rintro rfl
            rcases hd with rfl | rfl <;> exact absurd ha (by decide)
          · rintro rfl
            exact absurd ha (by decide)
      | sigma _ _ => rwa [List.getLast?_cons_cons, List.getLast?_cons_cons]
      | cons hc h =>
          rwa [List.getLast?_cons_of_ne_nil (ne_nil hU (.cons hc h) (List.cons_ne_nil _ _)),
            List.getLast?_cons_cons]
  | @cons c l m hc h ih =>
      by_cases hl : l = []
      · subst hl
        cases h
        rw [List.append_nil, List.getLast?_singleton, Option.some_inj]
        constructor
        · intro h
          exact hU.eq_of_mem_lower c a hc (List.mem_of_getLast? h) ha
        · rintro rfl
          rw [hU.lower_uncased c ha]
          rfl
      · rwa [List.getLast?_append_of_ne_nil _ (h.ne_nil hU hl), List.getLast?_cons_of_ne_nil hl]

theorem count_eq (hU : U.Lawful) (ha : isUncased a = true) (h : Lowered U l m) :
    m.count a = l.count a := by
  induction h with
  | nil => rfl
  | @sigma d l m hd _ ih =>
      have hd : d ≠ a := by
        rintro rfl
        rcases hd with rfl | rfl <;> exact absurd ha (by decide)
      have hs : 'Σ' ≠ a := by
        rintro rfl
        exact absurd ha (by decide)
      rw [List.count_cons_of_ne hd, List.count_cons_of_ne hs, ih]
  | @cons c l m hc _ ih =>
      rw [List.count_append, ih]
      by_cases hca : c = a
      · subst hca
        rw [hU.lower_uncased c ha, List.count_singleton_self, List.count_cons_self, Nat.add_comm]
      · rw [List.count_cons_of_ne hca, List.count_eq_zero_of_not_mem, Nat.zero_add]
        intro hmem
        exact hca (hU.eq_of_mem_lower c a hc hmem ha)

theorem mem_iff (hU : U.Lawful) (ha : isUncased a = true) (h : Lowered U l m) : a ∈ m ↔ a ∈ l := by
  rw [← List.count_pos_iff, h.count_eq hU ha, List.count_pos_iff]

end Lowered

/-- Text in lower case stays. -/
theorem lowerChars_of_lower {m : List Char} (h : ∀ d ∈ m, d ≠ 'Σ' ∧ U.lower d = [d])
    (before : List Char) : lowerChars U before m = m := by
  induction m generalizing before with
  | nil => rfl
  | cons d m ih =>
      obtain ⟨hd, hlower⟩ := h d List.mem_cons_self
      rw [lowerChars, if_neg hd, hlower, ih fun e he ↦ h e (List.mem_cons_of_mem _ he)]
      rfl

theorem caseIgnorableThenCased_append (hU : U.Lawful) {after : List Char}
    (hafter : ∀ c ∈ after, isUncased c = true) (l : List Char) :
    caseIgnorableThenCased U (l ++ after) = caseIgnorableThenCased U l := by
  induction l with
  | nil =>
      rw [List.nil_append, caseIgnorableThenCased]
      split
      · rfl
      · next c _ heq =>
          refine hU.cased c (hafter c ?_)
          exact (List.dropWhile_suffix _).subset (heq ▸ List.mem_cons_self)
  | cons c l ih =>
      unfold caseIgnorableThenCased at ih ⊢
      rw [List.cons_append, List.dropWhile_cons, List.dropWhile_cons]
      by_cases hc : U.caseIgnorable c = true
      · rwa [if_pos hc, if_pos hc]
      · rw [if_neg hc, if_neg hc]

/-- Uncased characters at the end change nothing before them. -/
theorem lowerChars_append (hU : U.Lawful) {after : List Char}
    (hafter : ∀ c ∈ after, isUncased c = true) (before l : List Char) :
    lowerChars U before (l ++ after) = lowerChars U before l ++ after := by
  induction l generalizing before with
  | nil => exact (lowered_lowerChars before after).eq_of_uncased hU hafter
  | cons c l ih =>
      rw [List.cons_append, lowerChars, lowerChars, ih, caseIgnorableThenCased_append hU hafter,
        List.append_assoc]

end Arp.Lib.Text
