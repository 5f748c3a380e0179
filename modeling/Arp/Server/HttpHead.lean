import Arp.Server.Hosts
import Mathlib.Data.List.Infix

/-!
# The head of an HTTP request

`read_http_request_head` reads from a visitor until the bytes so far hold the end
of a header block, and `extract_http_host` looks for the host in everything that
was read.  The last read may bring bytes of the body along, how many depends on
how the stream was cut.  They are checked to be UTF-8 and searched for a host with
the rest.

`read_http_request_head` returns the header block and the bytes read past its end
(`readHttpRequestHead_eq`), whatever the cut; the main result says which of those
bytes leave the host as it is in the header block alone.
-/

namespace Arp.Server

open Arp.Common Arp.Lib Arp.Lib.Text

/-! ## Reading the head -/

/-- `HTTP_HEADER_MAX`. -/
def httpHeaderMax : Nat := 16 * 1024

/-- `b"\r\n\r\n"`. -/
def headEnd : List UInt8 := [13, 10, 13, 10]

/-- `data.windows(4).any(|w| w == b"\r\n\r\n")`. -/
def hasHeadEnd (data : List UInt8) : Bool := data.tails.any headEnd.isPrefixOf

/-- The loop of `read_http_request_head` after `data` has been read.  A read fails
or yields bytes, none at the end of the stream; the list ends at the deadline. -/
def readHeadLoop (data : List UInt8) : List (Except String (List UInt8)) → Result (List UInt8)
  | [] => .error (.timeout "http header read timeout")
  | .error e :: _ => .error (.io e)
  | .ok chunk :: reads =>
    if chunk.isEmpty then .error .connectionClosed
    else if hasHeadEnd (data ++ chunk) then .ok (data ++ chunk)
    else if (data ++ chunk).length ≥ httpHeaderMax then
      .error (.protocol "http header too large")
    else readHeadLoop (data ++ chunk) reads

/-- `read_http_request_head`. -/
def readHttpRequestHead (reads : List (Except String (List UInt8))) : Result (List UInt8) :=
  readHeadLoop [] reads

/-- The host a line names, if it is a host line. -/
def hostLine (line : String) : Option String :=
  match splitOnce line ':' with
  | some (name, value) => if eqIgnoreAsciiCase name "host" then some (trim value) else none
  | none => none

/-- `extract_http_host`. -/
def extractHttpHost (data : List UInt8) : Option String := do
  let text ← ofBytes data
  (lines text).findSome? hostLine

theorem hasHeadEnd_iff {data : List UInt8} : hasHeadEnd data = true ↔ headEnd <:+: data := by
  rw [hasHeadEnd, List.any_eq_true]
  simp only [List.mem_tails, List.isPrefixOf_iff_prefix]
  constructor
  · rintro ⟨l, hl, hpre⟩
    exact hpre.isInfix.trans hl.isInfix
  · intro h
    obtain ⟨s, t, rfl⟩ := h
    exact ⟨headEnd ++ t, ⟨s, by simp⟩, List.prefix_append _ _⟩

/-! ## What is read -/

/-- A header block: a text of at most 16 KiB that ends at the first empty line. -/
structure HeaderBlock where
  text : String
  fits : (bytes text).length ≤ httpHeaderMax
  ends : headEnd <:+ bytes text
  first : ∀ data, data <+: bytes text → headEnd <:+: data → data = bytes text

/-- The bytes that the read which completes a block of `n` bytes brings along. -/
def overread : Nat → List (List UInt8) → List UInt8
  | _, [] => []
  | n, chunk :: chunks =>
    if n ≤ chunk.length then chunk.drop n else overread (n - chunk.length) chunks

/-- Inside a header block there is no end of one, and the limit is not reached. -/
theorem HeaderBlock.inside (h : HeaderBlock) {data rest : List UInt8}
    (hdata : bytes h.text = data ++ rest) (hrest : rest ≠ []) :
    hasHeadEnd data = false ∧ data.length < httpHeaderMax := by
  constructor
  · by_contra hend
    have hinfix := hasHeadEnd_iff.mp (Bool.eq_true_of_not_eq_false hend)
    have heq := h.first data (hdata ▸ List.prefix_append _ _) hinfix
    exact hrest (List.append_right_eq_self.mp (hdata.symm.trans heq.symm))
  · have hfits := h.fits
    have hpos := List.length_pos_iff.mpr hrest
    rw [hdata, List.length_append] at hfits
    omega

/-- The loop stops at the read that completes the block. -/
theorem readHeadLoop_eq (h : HeaderBlock) {data rest body : List UInt8}
    {chunks : List (List UInt8)} (hdata : bytes h.text = data ++ rest) (hrest : rest ≠ [])
    (hchunks : ∀ chunk ∈ chunks, chunk ≠ []) (hflat : chunks.flatten = rest ++ body) :
    readHeadLoop data (chunks.map .ok) = .ok (bytes h.text ++ overread rest.length chunks) := by
  induction chunks generalizing data rest with
  | nil => exact absurd (List.append_eq_nil_iff.mp hflat.symm).1 hrest
  | cons chunk chunks ih =>
      have hne : chunk ≠ [] := hchunks chunk List.mem_cons_self
      rw [List.flatten_cons] at hflat
      rw [List.map_cons, readHeadLoop, if_neg (by simpa using hne), overread]
      have hchunk : chunk <+: rest ++ body := hflat ▸ List.prefix_append _ _
      by_cases hlen : rest.length ≤ chunk.length
      · obtain ⟨extra, rfl⟩ := List.prefix_of_prefix_length_le (List.prefix_append _ _) hchunk hlen
        have hend : hasHeadEnd (bytes h.text ++ extra) = true :=
          hasHeadEnd_iff.mpr (h.ends.isInfix.trans (List.prefix_append _ _).isInfix)
        rw [← List.append_assoc, ← hdata, if_pos hend, if_pos hlen, List.drop_left]
      · -- the block goes on: neither its end nor the limit has been reached
        obtain ⟨rest', rfl⟩ := List.prefix_of_prefix_length_le hchunk (List.prefix_append _ _)
          (Nat.le_of_not_le hlen)
        have hrest' : rest' ≠ [] := by
          rintro rfl
          exact hlen (by simp)
        rw [← List.append_assoc] at hdata
        obtain ⟨hend, hlimit⟩ := h.inside hdata hrest'
        rw [if_neg (by simp [hend]), if_neg (Nat.not_le.mpr hlimit), if_neg hlen,
          ih hdata hrest' (fun c hc ↦ hchunks c (List.mem_cons_of_mem _ hc))
            (by simpa using hflat)]
        simp

/-- However the stream is cut, the header block is read, and with it the bytes
that the last of the reads brings along. -/
theorem readHttpRequestHead_eq (h : HeaderBlock) {body : List UInt8} {chunks : List (List UInt8)}
    (hchunks : ∀ chunk ∈ chunks, chunk ≠ []) (hflat : chunks.flatten = bytes h.text ++ body) :
    readHttpRequestHead (chunks.map .ok) =
      .ok (bytes h.text ++ overread (bytes h.text).length chunks) := by
  refine readHeadLoop_eq h rfl ?_ hchunks hflat
  intro hnil
  have := h.ends.length_le
  rw [hnil] at this
  exact absurd this (by decide)

/-! ## Which host is found -/

/-- A text has a host line. -/
def HasHostLine (text : String) : Prop := ∃ line ∈ lines text, (hostLine line).isSome = true

instance (text : String) : Decidable (HasHostLine text) :=
  inferInstanceAs (Decidable (∃ line ∈ _, _))

theorem HeaderBlock.getLast?_text (h : HeaderBlock) : h.text.toList.getLast? = some '\n' := by
  refine getLast?_toList_of_bytes ?_
  obtain ⟨l, hl⟩ := h.ends
  rw [← hl, headEnd, List.getLast?_append_of_ne_nil _ (List.cons_ne_nil _ _)]
  rfl

/-- The bytes after a header block count if they are text: their lines follow
those of the block. -/
theorem extractHttpHost_append (h : HeaderBlock) (extra : List UInt8) :
    extractHttpHost (bytes h.text ++ extra) = (ofBytes extra).bind fun t ↦
      ((lines h.text).findSome? hostLine).or ((lines t).findSome? hostLine) := by
  rw [extractHttpHost, ofBytes_append]
  cases ofBytes extra with
  | none => rfl
  | some t =>
      simp only [Option.map_some, Option.bind_eq_bind, Option.bind_some]
      rw [lines_append h.getLast?_text, List.findSome?_append]

theorem findSome?_hostLine_eq_none {text : String} :
    (lines text).findSome? hostLine = none ↔ ¬ HasHostLine text := by
  rw [List.findSome?_eq_none_iff, HasHostLine]
  simp

/-- However a header block and what follows it are cut into reads: the host found
is the host of the header block if and only if, with a host line in the block, the
bytes read past its end are UTF-8, and without one, they are no text that has a
host line. -/
theorem extractHttpHost_readHttpRequestHead (h : HeaderBlock) {body : List UInt8}
    {chunks : List (List UInt8)} (hchunks : ∀ chunk ∈ chunks, chunk ≠ [] ∧ chunk.length ≤ 1024)
    (hflat : chunks.flatten = bytes h.text ++ body) :
    (readHttpRequestHead (chunks.map .ok)).map extractHttpHost =
        .ok (extractHttpHost (bytes h.text)) ↔
      (HasHostLine h.text → ∃ t, ofBytes (overread (bytes h.text).length chunks) = some t) ∧
        (¬ HasHostLine h.text →
          ∀ t, ofBytes (overread (bytes h.text).length chunks) = some t → ¬ HasHostLine t) := by
  rw [readHttpRequestHead_eq h (fun chunk hc ↦ (hchunks chunk hc).1) hflat]
  generalize overread (bytes h.text).length chunks = extra
  have hself : extractHttpHost (bytes h.text) = (lines h.text).findSome? hostLine := by
    rw [extractHttpHost, ofBytes_bytes]
    rfl
  rw [hself]
  change Except.ok (extractHttpHost (bytes h.text ++ extra)) = _ ↔ _
  rw [Except.ok.injEq, extractHttpHost_append]
  by_cases hhost : HasHostLine h.text
  · obtain ⟨host, hline⟩ := Option.ne_none_iff_exists'.mp
      fun hn ↦ findSome?_hostLine_eq_none.mp hn hhost
    rw [hline]
    cases ofBytes extra with
    | none => simp [hhost]
    | some t => simp [hhost]
  · rw [findSome?_hostLine_eq_none.mpr hhost]
    cases ofBytes extra with
    | none => simp [hhost]
    | some t =>
        rw [Option.bind_some, Option.none_or, findSome?_hostLine_eq_none]
        simp [hhost]

/-- A byte of a binary body read along makes a request with a host lose it, and a
line of the body read along gives one to a request without. -/
theorem extractHttpHost_overread :
    (readHttpRequestHead [.ok (bytes "POST / HTTP/1.1\r\nHost: a.example\r\n\r\n" ++ [0xFF])]).map
        extractHttpHost = .ok none ∧
      extractHttpHost (bytes "POST / HTTP/1.1\r\nHost: a.example\r\n\r\n") = some "a.example" ∧
      (readHttpRequestHead [.ok (bytes "POST / HTTP/1.1\r\n\r\n" ++ bytes "host: b.example")]).map
        extractHttpHost = .ok (some "b.example") ∧
      extractHttpHost (bytes "POST / HTTP/1.1\r\n\r\n") = none := by
  decide +kernel

/-- Whether a text is a header block can be read off its bytes. -/
theorem HeaderBlock.exists_text_eq {text : String} (fits : (bytes text).length ≤ httpHeaderMax)
    (ends : headEnd <:+ bytes text)
    (first : ∀ data ∈ (bytes text).inits, hasHeadEnd data = true → data = bytes text) :
    ∃ h : HeaderBlock, h.text = text :=
  ⟨⟨text, fits, ends, fun data hpre hend ↦
    first data ((List.mem_inits _ _).mpr hpre) (hasHeadEnd_iff.mpr hend)⟩, rfl⟩

theorem extractHttpHost_two_reads :
    (readHttpRequestHead
      [.ok (bytes "GET / HTTP/1.1\r\nHost: a.ex"), .ok (bytes "ample\r\n\r\nhost: b.example")]).map
        extractHttpHost = .ok (some "a.example") := by
  obtain ⟨h, htext⟩ : ∃ h : HeaderBlock,
      h.text = "GET / HTTP/1.1\r\nHost: a.example\r\n\r\n" :=
    HeaderBlock.exists_text_eq (by decide +kernel) (by decide +kernel) (by decide +kernel)
  have hiff := @extractHttpHost_readHttpRequestHead h (bytes "host: b.example")
    [bytes "GET / HTTP/1.1\r\nHost: a.ex", bytes "ample\r\n\r\nhost: b.example"]
    (by decide +kernel) (by rw [htext]; decide +kernel)
  rw [htext] at hiff
  refine (hiff.mpr ⟨fun _ ↦ ⟨"host: b.example", by decide +kernel⟩,
    fun hn ↦ absurd (by decide +kernel) hn⟩).trans ?_
  decide +kernel

end Arp.Server
