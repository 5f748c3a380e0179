import Mathlib.Data.List.DropRight
import Mathlib.Data.List.TakeDrop

/-!
# Text as the standard library of the source language sees it

The functions of `str` that the development needs, on Lean's `String`.  A
string is read through its list of characters, which is what `chars()` yields,
so every function below is a list function between `toList` and `ofList`; the
`toList_*` lemmas are the interface the proofs use.

White space is the Unicode property `White_Space`.  Case conversion depends on
the Unicode character database, which is data and changes from version to
version, so it is a parameter: `UnicodeData` carries the tables together with
the one fact every version shares, that the table is the usual one on ASCII.
-/

namespace Arp.Lib.Text

/-- `str::as_bytes`: the UTF-8 encoding of a string. -/
def bytes (s : String) : List UInt8 := s.toUTF8.data.toList

/-- A string is determined by its UTF-8 encoding. -/
theorem bytes_injective : Function.Injective bytes := by
  intro s t h
  apply String.toByteArray_inj.mp
  apply ByteArray.ext
  exact Array.toList_inj.mp h

/-- The string whose UTF-8 encoding these bytes are, if there is one. -/
def ofBytes (bs : List UInt8) : Option String := String.fromUTF8? bs.toByteArray

@[simp] theorem ofBytes_bytes (s : String) : ofBytes (bytes s) = some s := by
  have h : (bytes s).toByteArray = s.toUTF8 := by
    apply ByteArray.ext
    rw [List.data_toByteArray, bytes]
  rw [ofBytes, h, String.fromUTF8?, dif_pos (by exact s.isValidUTF8)]
  rfl

/-- A string is read off its own bytes only. -/
theorem bytes_of_ofBytes {bs : List UInt8} {s : String} (h : ofBytes bs = some s) :
    bytes s = bs := by
  unfold ofBytes String.fromUTF8? at h
  split at h
  · obtain rfl := Option.some.inj h
    rw [bytes]
    exact congrArg Array.toList List.data_toByteArray
  · cases h

theorem bytes_eq_flatMap (s : String) : bytes s = s.toList.flatMap String.utf8EncodeChar := by
  have h : s.toUTF8 = s.toList.utf8Encode := String.utf8Encode_toList.symm
  rw [bytes, h, List.utf8Encode, List.data_toByteArray]

theorem bytes_append (s t : String) : bytes (s ++ t) = bytes s ++ bytes t := by
  rw [bytes_eq_flatMap, String.toList_append, List.flatMap_append, ← bytes_eq_flatMap,
    ← bytes_eq_flatMap]

/-- An ASCII character is encoded as itself. -/
theorem utf8EncodeChar_ofUInt8 {b : UInt8} (h : b < 128) :
    String.utf8EncodeChar (Char.ofUInt8 b) = [b] := by
  have hval : (Char.ofUInt8 b).val = b.toUInt32 := rfl
  have hsize : (Char.ofUInt8 b).utf8Size = 1 := by
    rw [Char.utf8Size_eq_one_iff, hval, UInt32.le_iff_toNat_le, UInt8.toNat_toUInt32]
    exact Nat.lt_succ_iff.mp (UInt8.lt_iff_toNat_lt.mp h)
  rw [String.utf8EncodeChar_eq_singleton hsize, hval, UInt8.toUInt8_toUInt32]

/-- A string that was pushed together from ASCII bytes has these bytes. -/
theorem bytes_ofList_ascii {bs : List UInt8} (h : ∀ b ∈ bs, b < 128) :
    bytes (.ofList (bs.map Char.ofUInt8)) = bs := by
  rw [bytes_eq_flatMap, String.toList_ofList, List.flatMap_map]
  calc bs.flatMap (fun b ↦ String.utf8EncodeChar (Char.ofUInt8 b))
      = bs.flatMap (fun b ↦ [b]) := List.flatMap_congr fun b hb ↦ utf8EncodeChar_ofUInt8 (h b hb)
    _ = bs := List.flatMap_singleton' bs

/-- What follows whole characters in a string is whole characters again. -/
theorem exists_bytes_of_append {l : List Char} {bs : List UInt8} {t : String}
    (h : bytes t = l.flatMap String.utf8EncodeChar ++ bs) : ∃ u, bytes u = bs := by
  induction l generalizing t with
  | nil => exact ⟨t, h⟩
  | cons c l ih =>
      have ht : t.toByteArray =
          [c].utf8Encode ++ (l.flatMap String.utf8EncodeChar ++ bs).toByteArray := by
        apply ByteArray.ext
        apply Array.toList_inj.mp
        change bytes t = _
        rw [h]
        simp [List.utf8Encode]
      have hvalid := t.isValidUTF8
      rw [ht, ByteArray.isValidUTF8_utf8Encode_singleton_append_iff] at hvalid
      refine ih (t := ⟨_, hvalid⟩) ?_
      rw [bytes]
      exact congrArg Array.toList List.data_toByteArray

/-- Bytes after a text are read as bytes of their own. -/
theorem ofBytes_append (s : String) (bs : List UInt8) :
    ofBytes (bytes s ++ bs) = (ofBytes bs).map (s ++ ·) := by
  cases hbs : ofBytes bs with
  | some t => rw [← bytes_of_ofBytes hbs, ← bytes_append, ofBytes_bytes, Option.map_some]
  | none =>
      cases hall : ofBytes (bytes s ++ bs) with
      | none => rfl
      | some t =>
          have ht := bytes_of_ofBytes hall
          rw [bytes_eq_flatMap s] at ht
          obtain ⟨u, rfl⟩ := exists_bytes_of_append ht
          rw [ofBytes_bytes] at hbs
          cases hbs

/-- The encoding of a character ends in a line feed only if it is one. -/
theorem eq_newline_of_getLast? {c : Char} (h : (String.utf8EncodeChar c).getLast? = some 10) :
    c = '\n' := by
  have hnat (n : Nat) (hn : UInt8.ofNat n = 10) : n % 256 = 10 := by
    simpa using congrArg UInt8.toNat hn
  unfold String.utf8EncodeChar at h
  dsimp only at h
  split at h
  · next hle =>
      have := hnat _ (Option.some.inj h)
      refine Char.ext (UInt32.toNat_inj.mp ?_)
      change c.val.toNat = 10
      omega
  -- every other encoding ends in a continuation byte
  all_goals
    repeat' split at h
    all_goals
      have := hnat _ (Option.some.inj h)
      omega

/-- A text whose encoding ends in a line feed ends in one. -/
theorem getLast?_toList_of_bytes {s : String} (h : (bytes s).getLast? = some 10) :
    s.toList.getLast? = some '\n' := by
  rw [bytes_eq_flatMap] at h
  generalize s.toList = l at h ⊢
  induction l using List.reverseRecOn with
  | nil => cases h
  | append_singleton l c _ =>
      have hne : String.utf8EncodeChar c ≠ [] := by simp
      rw [List.flatMap_append, List.flatMap_singleton,
        List.getLast?_append_of_ne_nil _ hne] at h
      rw [List.getLast?_concat, eq_newline_of_getLast? h]

/-- Why bytes are not UTF-8: how many valid bytes come first, and how many after
them are wrong; none if the bytes end too early. -/
structure Utf8Error where
  validUpTo : Nat
  errorLen : Option Nat
deriving DecidableEq, Repr

/-- `Display for Utf8Error`. -/
def Utf8Error.display (e : Utf8Error) : String :=
  match e.errorLen with
  | some len => "invalid utf-8 sequence of " ++ toString len ++ " bytes from index " ++
      toString e.validUpTo
  | none => "incomplete utf-8 byte sequence from index " ++ toString e.validUpTo

/-- The bytes that may follow the first byte of a character. -/
def isSecond (first second : UInt8) : Bool :=
  if first == 0xE0 then 0xA0 ≤ second && second ≤ 0xBF
  else if first == 0xED then 0x80 ≤ second && second ≤ 0x9F
  else if first == 0xF0 then 0x90 ≤ second && second ≤ 0xBF
  else if first == 0xF4 then 0x80 ≤ second && second ≤ 0x8F
  else 0x80 ≤ second && second ≤ 0xBF

/-- The number of bytes of a character that starts with a byte; zero if none does. -/
def utf8CharWidth (first : UInt8) : Nat :=
  if first < 0x80 then 1
  else if 0xC2 ≤ first && first ≤ 0xDF then 2
  else if 0xE0 ≤ first && first ≤ 0xEF then 3
  else if 0xF0 ≤ first && first ≤ 0xF4 then 4
  else 0

/-- The check of one character: what is wrong with it, or the bytes after it. -/
def checkChar (first : UInt8) (rest : List UInt8) : Except (Option Nat) (List UInt8) :=
  let isCont (b : UInt8) : Bool := 0x80 ≤ b && b ≤ 0xBF
  match utf8CharWidth first with
  | 0 => .error (some 1)
  | 1 => .ok rest
  | width =>
    match rest with
    | [] => .error none
    | b :: rest =>
      if !isSecond first b then .error (some 1)
      else if width = 2 then .ok rest
      else
        match rest with
        | [] => .error none
        | c :: rest =>
          if !isCont c then .error (some 2)
          else if width = 3 then .ok rest
          else
            match rest with
            | [] => .error none
            | d :: rest => if !isCont d then .error (some 3) else .ok rest

/-- The first thing that is wrong with bytes, from an index on; the first argument
bounds the number of characters. -/
def utf8ErrorFrom : Nat → Nat → List UInt8 → Utf8Error
  | 0, index, _ | _, index, [] => ⟨index, none⟩
  | fuel + 1, index, first :: rest =>
    match checkChar first rest with
    | .error len => ⟨index, len⟩
    | .ok rest => utf8ErrorFrom fuel (index + utf8CharWidth first) rest

/-- `String::from_utf8`. -/
def fromUtf8 (bs : List UInt8) : Except Utf8Error String :=
  match ofBytes bs with
  | some s => .ok s
  | none => .error (utf8ErrorFrom bs.length 0 bs)

@[simp] theorem fromUtf8_bytes (s : String) : fromUtf8 (bytes s) = .ok s := by
  rw [fromUtf8, ofBytes_bytes]

theorem bytes_of_fromUtf8 {bs : List UInt8} {s : String} (h : fromUtf8 bs = .ok s) :
    bytes s = bs := by
  unfold fromUtf8 at h
  split at h
  · next t ht =>
      obtain rfl := Except.ok.inj h
      exact bytes_of_ofBytes ht
  · cases h

example : fromUtf8 [0x61, 0xE2, 0x28, 0xA1] = .error ⟨1, some 1⟩ := by decide

/-! ## White space and trimming -/

/-- `char::is_whitespace`: the property `White_Space` of Unicode. -/
def isWhitespace (c : Char) : Bool :=
  let n := c.toNat
  (0x09 ≤ n && n ≤ 0x0D) || n == 0x20 || n == 0x85 || n == 0xA0 || n == 0x1680 ||
    (0x2000 ≤ n && n ≤ 0x200A) || n == 0x2028 || n == 0x2029 || n == 0x202F ||
    n == 0x205F || n == 0x3000

/-- `str::trim`. -/
def trim (s : String) : String :=
  .ofList ((s.toList.dropWhile isWhitespace).rdropWhile isWhitespace)

/-- `str::trim_end_matches` at a single character. -/
def trimEndMatches (s : String) (c : Char) : String :=
  .ofList (s.toList.rdropWhile (· == c))

/-- `s.trim().is_empty()`: nothing but white space. -/
def isBlank (s : String) : Bool := (trim s).isEmpty

@[simp] theorem toList_trimEndMatches (s : String) (c : Char) :
    (trimEndMatches s c).toList = s.toList.rdropWhile (· == c) := String.toList_ofList

theorem isBlank_empty : isBlank "" = true := by decide

theorem ne_empty_of_isBlank {s : String} (h : isBlank s = false) : s ≠ "" := by
  rintro rfl
  rw [isBlank_empty] at h
  cases h

theorem mem_of_mem_trim {s : String} {c : Char} (h : c ∈ (trim s).toList) : c ∈ s.toList := by
  rw [trim, String.toList_ofList] at h
  exact (List.dropWhile_suffix _).subset ((List.rdropWhile_prefix _ _).subset h)

/-- Trimming a character off the end splits the text into the part kept, which
does not end in that character, and a run of it. -/
theorem rdropWhile_eq_iff {l h : List Char} {c : Char} :
    l.rdropWhile (· == c) = h ↔
      (∃ k, l = h ++ List.replicate k c) ∧ h.getLast? ≠ some c := by
  induction l using List.reverseRecOn generalizing h with
  | nil =>
      simp only [List.rdropWhile_nil]
      constructor
      · rintro rfl
        exact ⟨⟨0, rfl⟩, by simp⟩
      · rintro ⟨⟨k, hk⟩, -⟩
        exact (List.append_eq_nil_iff.mp hk.symm).1.symm
  | append_singleton l x ih =>
      by_cases hx : x = c
      · subst hx
        rw [List.rdropWhile_concat_pos _ _ _ (by simp), ih]
        refine and_congr_left fun hlast ↦ ?_
        constructor
        · rintro ⟨k, rfl⟩
          exact ⟨k + 1, by rw [List.replicate_succ', List.append_assoc]⟩
        · rintro ⟨k, hk⟩
          cases k with
          | zero =>
              simp only [List.replicate_zero, List.append_nil] at hk
              exact absurd (by simp [← hk]) hlast
          | succ k =>
              rw [List.replicate_succ', ← List.append_assoc] at hk
              exact ⟨k, (List.append_inj' hk rfl).1⟩
      · rw [List.rdropWhile_concat_neg _ _ _ (by simpa using hx)]
        constructor
        · rintro rfl
          exact ⟨⟨0, by simp⟩, by simpa using hx⟩
        · rintro ⟨⟨k, hk⟩, -⟩
          cases k with
          | zero => simpa using hk
          | succ k =>
              rw [List.replicate_succ', ← List.append_assoc] at hk
              exact absurd (List.singleton_inj.mp (List.append_inj' hk rfl).2) hx

/-! ## Prefixes, suffixes and splitting -/

/-- `str::ends_with` at a string. -/
def endsWith (s suffix : String) : Bool := suffix.toList.isSuffixOf s.toList

/-- `str::starts_with` at a string. -/
def startsWith (s pre : String) : Bool := pre.toList.isPrefixOf s.toList

theorem endsWith_iff {s suffix : String} :
    endsWith s suffix = true ↔ suffix.toList <:+ s.toList :=
  List.isSuffixOf_iff_suffix

theorem startsWith_iff {s pre : String} :
    startsWith s pre = true ↔ pre.toList <+: s.toList :=
  List.isPrefixOf_iff_prefix

/-- `str::strip_prefix` at a string. -/
def stripPrefix (s pre : String) : Option String :=
  if startsWith s pre then some (.ofList (s.toList.drop pre.toList.length)) else none

theorem stripPrefix_append (pre s : String) : stripPrefix (pre ++ s) pre = some s := by
  have hstart : startsWith (pre ++ s) pre = true := by
    rw [startsWith_iff, String.toList_append]
    exact List.prefix_append _ _
  rw [stripPrefix, if_pos hstart, String.toList_append, List.drop_left, String.ofList_toList]

/-- A text is split at its first separator in one way. -/
theorem append_cons_inj {α : Type*} {before before' after after' : List α} {c : α}
    (h : c ∉ before) (h' : c ∉ before')
    (heq : before ++ c :: after = before' ++ c :: after') :
    before = before' ∧ after = after' := by
  induction before generalizing before' with
  | nil =>
      cases before' with
      | nil => exact ⟨rfl, (List.cons.inj heq).2⟩
      | cons b l => exact absurd ((List.cons.inj heq).1 ▸ List.mem_cons_self) h'
  | cons a l ih =>
      cases before' with
      | nil => exact absurd ((List.cons.inj heq).1 ▸ List.mem_cons_self) h
      | cons b l' =>
          obtain ⟨rfl, hrest⟩ := List.cons.inj heq
          obtain ⟨rfl, hafter⟩ := ih (fun hc ↦ h (List.mem_cons_of_mem _ hc))
            (fun hc ↦ h' (List.mem_cons_of_mem _ hc)) hrest
          exact ⟨rfl, hafter⟩

/-- Where two texts may contain the separator, they can also be joined to one text if a
separator with what stands next to it moves from one to the other. -/
theorem append_cons_eq_iff {α : Type*} {before before' after after' : List α} {c : α} :
    before ++ c :: after = before' ++ c :: after' ↔
      (before = before' ∧ after = after') ∨
        (∃ w, before' = before ++ c :: w ∧ after = w ++ c :: after') ∨
        ∃ w, before = before' ++ c :: w ∧ after' = w ++ c :: after := by
  constructor
  · intro h
    -- One of the first parts is an initial segment of the other; what remains of the
    -- longer one starts with the separator, unless nothing remains.
    rcases List.append_eq_append_iff.mp h with ⟨rest, rfl, hrest⟩ | ⟨rest, rfl, hrest⟩
    · cases rest with
      | nil => exact .inl ⟨(List.append_nil _).symm, (List.cons.inj hrest).2⟩
      | cons x w =>
          obtain ⟨rfl, rfl⟩ := List.cons.inj hrest
          exact .inr (.inl ⟨w, rfl, rfl⟩)
    · cases rest with
      | nil => exact .inl ⟨List.append_nil _, (List.cons.inj hrest).2.symm⟩
      | cons x w =>
          obtain ⟨rfl, rfl⟩ := List.cons.inj hrest
          exact .inr (.inr ⟨w, rfl, rfl⟩)
  · rintro (⟨rfl, rfl⟩ | ⟨w, rfl, rfl⟩ | ⟨w, rfl, rfl⟩)
    · rfl
    · rw [List.append_assoc, List.cons_append]
    · rw [List.append_assoc, List.cons_append]

/-- A number is told by its digits. -/
theorem toString_inj {m n : Nat} (h : toString m = toString n) : m = n := by
  have hdigits := congrArg String.toList h
  rw [Nat.toString_eq_ofList_toDigits, Nat.toString_eq_ofList_toDigits, String.toList_ofList,
    String.toList_ofList] at hdigits
  rw [← Nat.ofDigitChars_ten_toDigits (n := m), hdigits, Nat.ofDigitChars_ten_toDigits]

/-- Only digits occur in a number. -/
theorem notMem_toString {c : Char} (hc : c.isDigit = false) (n : Nat) :
    c ∉ (toString n).toList := by
  rw [Nat.toString_eq_ofList_toDigits, String.toList_ofList]
  intro h
  rw [Nat.isDigit_of_mem_toDigits (by decide) (by decide) h] at hc
  cases hc

/-- `str::split_once` at a character. -/
def splitOnce (s : String) (c : Char) : Option (String × String) :=
  match s.toList.span (· != c) with
  | (before, _ :: after) => some (.ofList before, .ofList after)
  | (_, []) => none

theorem splitOnce_eq_some {s before after : String} {c : Char} :
    splitOnce s c = some (before, after) ↔
      s.toList = before.toList ++ c :: after.toList ∧ c ∉ before.toList := by
  unfold splitOnce
  rw [List.span_eq_takeWhile_dropWhile]
  constructor
  · intro h
    split at h
    · next first x rest hspan =>
        obtain ⟨rfl, hrest⟩ := Prod.mk.inj hspan
        obtain ⟨rfl, rfl⟩ := Prod.mk.inj (Option.some.inj h)
        rw [String.toList_ofList, String.toList_ofList]
        -- What stops the first part is the separator.
        have hx : x = c := by
          have hhead := List.head?_dropWhile_not (· != c) s.toList
          rw [hrest] at hhead
          simpa using hhead
        subst hx
        refine ⟨?_, fun hmem ↦ ?_⟩
        · rw [← hrest, List.takeWhile_append_dropWhile]
        · simpa using List.mem_takeWhile_imp hmem
    · cases h
  · rintro ⟨hs, hnot⟩
    have hall : ∀ x ∈ before.toList, (x != c) = true := by
      intro x hx
      rw [bne_iff_ne]
      rintro rfl
      exact hnot hx
    rw [hs, List.takeWhile_append_of_pos hall, List.dropWhile_append_of_pos hall]
    simp [String.ofList_toList]

/-- `str::rsplit_once` at a character, on the characters of a string: the
text before and after the last occurrence. -/
def rsplitOnceChars (l : List Char) (c : Char) : Option (List Char × List Char) :=
  match l with
  | [] => none
  | x :: xs =>
    match rsplitOnceChars xs c with
    | some (before, after) => some (x :: before, after)
    | none => if x = c then some ([], xs) else none

/-- `str::rsplit_once` at a character. -/
def rsplitOnce (s : String) (c : Char) : Option (String × String) :=
  (rsplitOnceChars s.toList c).map fun p ↦ (.ofList p.1, .ofList p.2)

theorem rsplitOnceChars_eq_none {l : List Char} {c : Char} :
    rsplitOnceChars l c = none ↔ c ∉ l := by
  induction l with
  | nil => simp [rsplitOnceChars]
  | cons x xs ih =>
      cases h : rsplitOnceChars xs c with
      | none =>
          have hc : c ∉ xs := ih.mp h
          simp [rsplitOnceChars, h, hc, eq_comm]
      | some p =>
          have hc : c ∈ xs := by
            by_contra hn
            simp [ih.mpr hn] at h
          simp [rsplitOnceChars, h, hc]

/-- The split is at the last occurrence: the text after it is free of `c`. -/
theorem rsplitOnceChars_eq_some {l before after : List Char} {c : Char} :
    rsplitOnceChars l c = some (before, after) ↔ l = before ++ c :: after ∧ c ∉ after := by
  induction l generalizing before after with
  | nil => simp [rsplitOnceChars]
  | cons x xs ih =>
      cases h : rsplitOnceChars xs c with
      | none =>
          have hc : c ∉ xs := rsplitOnceChars_eq_none.mp h
          simp only [rsplitOnceChars, h]
          constructor
          · intro hs
            split at hs
            · next hx =>
                simp only [Option.some.injEq, Prod.mk.injEq] at hs
                obtain ⟨rfl, rfl⟩ := hs
                exact ⟨by rw [hx]; rfl, hc⟩
            · cases hs
          · rintro ⟨hl, -⟩
            cases before with
            | nil =>
                obtain ⟨rfl, rfl⟩ := List.cons.inj hl
                rw [if_pos rfl]
            | cons y ys =>
                obtain ⟨rfl, rfl⟩ := List.cons.inj hl
                exact absurd (by simp) hc
      | some p =>
          obtain ⟨b, a⟩ := p
          obtain ⟨hxs, ha⟩ := ih.mp h
          simp only [rsplitOnceChars, h, Option.some.injEq, Prod.mk.injEq]
          constructor
          · rintro ⟨rfl, rfl⟩
            exact ⟨by rw [hxs]; rfl, ha⟩
          · rintro ⟨hl, hn⟩
            cases before with
            | nil =>
                obtain ⟨rfl, rfl⟩ := List.cons.inj hl
                exact absurd (by rw [hxs]; simp) hn
            | cons y ys =>
                obtain ⟨rfl, htail⟩ := List.cons.inj hl
                have h' := ih.mpr ⟨htail, hn⟩
                rw [h] at h'
                obtain ⟨rfl, rfl⟩ := Prod.mk.inj (Option.some.inj h')
                exact ⟨rfl, rfl⟩

/-! ## Lines -/

/-- A line without the carriage return at its end. -/
def stripCr (line : List Char) : List Char :=
  if line.getLast? = some '\r' then line.dropLast else line

/-- The lines of a text of which `line` has been read of the first.  Only a line
that is ended by a line feed loses a carriage return. -/
def linesFrom (line : List Char) : List Char → List (List Char)
  | [] => if line.isEmpty then [] else [line]
  | c :: rest =>
    if c = '\n' then stripCr line :: linesFrom [] rest else linesFrom (line ++ [c]) rest

/-- `str::lines`. -/
def lines (s : String) : List String := (linesFrom [] s.toList).map .ofList

theorem linesFrom_append (line l l' : List Char) :
    linesFrom line (l ++ '\n' :: l') = linesFrom line (l ++ ['\n']) ++ linesFrom [] l' := by
  induction l generalizing line with
  | nil => rfl
  | cons c l ih =>
      simp only [List.cons_append, linesFrom]
      split
      · rw [ih]; rfl
      · exact ih _

/-- After a line feed the lines of the rest begin. -/
theorem lines_append {s : String} (h : s.toList.getLast? = some '\n') (t : String) :
    lines (s ++ t) = lines s ++ lines t := by
  obtain ⟨l, hl⟩ := List.getLast?_eq_some_iff.mp h
  rw [lines, lines, lines, ← List.map_append, String.toList_append, hl, List.append_assoc,
    List.singleton_append, linesFrom_append]

/-! ## Case conversion -/

/-- The tables of the Unicode character database that `to_lowercase` reads. -/
structure UnicodeData where
  /-- The full lower-case mapping of a character. -/
  lower : Char → List Char
  /-- The property `Cased`. -/
  cased : Char → Bool
  /-- The property `Case_Ignorable`. -/
  caseIgnorable : Char → Bool

namespace UnicodeData

/-- The tables cut down to ASCII; every version agrees with them on ASCII text. -/
def ascii : UnicodeData where
  lower c := [c.toLower]
  cased c := c.isAlpha
  caseIgnorable c := c == '\'' || c == '.' || c == ':' || c == '^' || c.toNat == 0x60

end UnicodeData

variable (U : UnicodeData)

/-- Whether the first character that is not case-ignorable is cased. -/
def caseIgnorableThenCased (l : List Char) : Bool :=
  match l.dropWhile U.caseIgnorable with
  | [] => false
  | c :: _ => U.cased c

/-- `str::to_lowercase` on characters.  `before` holds the characters already
passed, nearest first: a capital sigma becomes a final sigma at the end of a
word, and only there. -/
def lowerChars (before : List Char) : List Char → List Char
  | [] => []
  | c :: rest =>
    (if c = 'Σ' then
      [if caseIgnorableThenCased U before && !caseIgnorableThenCased U rest then 'ς' else 'σ']
    else U.lower c) ++ lowerChars (c :: before) rest

/-- `str::to_lowercase`. -/
def toLowercase (s : String) : String := .ofList (lowerChars U [] s.toList)

/-- `str::eq_ignore_ascii_case`. -/
def eqIgnoreAsciiCase (s t : String) : Bool :=
  s.toList.map Char.toLower == t.toList.map Char.toLower

end Arp.Lib.Text
