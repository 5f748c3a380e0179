import Arp.Lib.Checked
import Arp.Server.Tls

/-!
# The TLS parser stays inside its slice

`parseTlsSni` reads bytes through functions that are total.  Here the same code is
written with the accesses the source has, each of which faults outside the slice, and
with loops that are given a number of turns.  Whatever the bytes are, it evaluates to
the value of `parseTlsSni`: every access lies inside, and neither loop needs more turns
than the slice has bytes.
-/

namespace Arp.Server

open Arp.Lib Arp.Lib.Checked Arp.Lib.Text Arp.Lib.Vectors

/-! ## The accesses of the source -/

/-- A turn of the inner loop, from `sn_pos` on. -/
def serverNameTurn (record : List UInt8) (snEnd snPos : Nat) : Checked (Nat ⊕ Option String) := do
  if snPos + 3 ≤ snEnd then
    let nameType ← index record snPos
    let nameLen ← u16At record (snPos + 1)
    let snPos := snPos + 3
    if snPos + nameLen > snEnd then
      return .inr none
    if nameType = 0 then
      let name ← range record snPos (snPos + nameLen)
      return .inr (ofBytes name)
    return .inl (snPos + nameLen)
  else return .inr none

/-- A turn of the outer loop, from `pos` on.  The inner loop ends the function. -/
def extensionTurn (turns : Nat) (record : List UInt8) (extensionsEnd pos : Nat) :
    Checked (Nat ⊕ Option String) := do
  if pos + 4 ≤ extensionsEnd then
    let extType ← u16At record pos
    let extLen ← u16At record (pos + 2)
    let pos := pos + 4
    if pos + extLen > extensionsEnd then
      return .inr none
    if extType = 0x0000 then
      if extLen < 2 then
        return .inr none
      let name ← loop (serverNameTurn record (pos + extLen)) turns (pos + 2)
      return .inr name
    return .inl (pos + extLen)
  else return .inr none

/-- `parse_tls_sni` from the session id on. -/
def helloSniChecked (turns : Nat) (record : List UInt8) : Checked (Option String) := do
  let pos := 9 + (2 + 32)
  if pos ≥ record.length then
    return none
  let sessionIdLen ← index record pos
  let pos := pos + (1 + sessionIdLen.toNat)
  if pos + 2 > record.length then
    return none
  let cipherLen ← u16At record pos
  let pos := pos + (2 + cipherLen)
  if pos ≥ record.length then
    return none
  let compressionLen ← index record pos
  let pos := pos + (1 + compressionLen.toNat)
  if pos + 2 > record.length then
    return none
  let extensionsLen ← u16At record pos
  let pos := pos + 2
  let extensionsEnd := pos + extensionsLen
  if extensionsEnd > record.length then
    return none
  loop (extensionTurn turns record extensionsEnd) turns pos

/-- `parse_tls_sni` with its accesses, each loop for at most `turns` turns. -/
def parseTlsSniChecked (turns : Nat) (record : List UInt8) : Checked (Option String) := do
  if record.length < 5 then
    return none
  if (← index record 0) ≠ 0x16 then
    return none
  let recLen ← u16At record 3
  if recLen + 5 > record.length then
    return none
  if 5 + 4 > record.length then
    return none
  if (← index record 5) ≠ 0x01 then
    return none
  let high ← index record (5 + 1)
  let middle ← index record (5 + 2)
  let low ← index record (5 + 3)
  let hsLen := high.toNat <<< 16 ||| middle.toNat <<< 8 ||| low.toNat
  if 9 + hsLen > record.length then
    return none
  helloSniChecked turns record

/-! ## The loops -/

section Loops

variable {record : List UInt8} {snEnd extEnd fuel fuel' turns pos : Nat}

theorem serverNameLoop_eq_none (h : snEnd < pos + 3) (fuel : Nat) :
    serverNameLoop record snEnd fuel pos = none := by
  cases fuel with
  | zero => rfl
  | succ fuel => exact if_neg (by omega)

theorem extensionLoop_eq_none (h : extEnd < pos + 4) (fuel : Nat) :
    extensionLoop record extEnd fuel pos = none := by
  cases fuel with
  | zero => rfl
  | succ fuel => exact if_neg (by omega)

/-- The inner loop does not depend on the fuel once it covers the list. -/
theorem serverNameLoop_fuel (h : snEnd - pos ≤ fuel) (h' : snEnd - pos ≤ fuel') :
    serverNameLoop record snEnd fuel pos = serverNameLoop record snEnd fuel' pos := by
  by_cases hend : snEnd < pos + 3
  · rw [serverNameLoop_eq_none hend, serverNameLoop_eq_none hend]
  induction fuel generalizing fuel' pos with
  | zero => omega
  | succ fuel ih =>
      cases fuel' with
      | zero => omega
      | succ fuel' =>
          rw [serverNameLoop, serverNameLoop]
          dsimp only
          by_cases hrest : snEnd < pos + 3 + beAt record (pos + 1) 2 + 3
          · rw [serverNameLoop_eq_none hrest, serverNameLoop_eq_none hrest]
          · have hsame : serverNameLoop record snEnd fuel (pos + 3 + beAt record (pos + 1) 2) =
                serverNameLoop record snEnd fuel' (pos + 3 + beAt record (pos + 1) 2) :=
              ih (by omega) (by omega) hrest
            rw [hsame]

/-- The outer loop does not depend on the fuel once it covers the extensions. -/
theorem extensionLoop_fuel (h : extEnd - pos ≤ fuel) (h' : extEnd - pos ≤ fuel') :
    extensionLoop record extEnd fuel pos = extensionLoop record extEnd fuel' pos := by
  by_cases hend : extEnd < pos + 4
  · rw [extensionLoop_eq_none hend, extensionLoop_eq_none hend]
  induction fuel generalizing fuel' pos with
  | zero => omega
  | succ fuel ih =>
      cases fuel' with
      | zero => omega
      | succ fuel' =>
          rw [extensionLoop, extensionLoop]
          dsimp only
          by_cases hrest : extEnd < pos + 4 + beAt record (pos + 2) 2 + 4
          · rw [extensionLoop_eq_none hrest, extensionLoop_eq_none hrest]
          · have hsame : extensionLoop record extEnd fuel (pos + 4 + beAt record (pos + 2) 2) =
                extensionLoop record extEnd fuel' (pos + 4 + beAt record (pos + 2) 2) :=
              ih (by omega) (by omega) hrest
            rw [hsame]

/-- The text at a place in the record. -/
def textAt (record : List UInt8) (span : Nat × Nat) : Option String :=
  ofBytes (slice record span.1 span.2)

/-- A byte as the number the parser compares. -/
theorem getElem_eq_iff_beAt (h : pos < record.length) {b : UInt8} {n : Nat} (hb : b.toNat = n) :
    record[pos] = b ↔ beAt record pos 1 = n := by
  rw [beAt_one h, ← hb, UInt8.toNat_inj]

/-- A turn of the inner loop inside the list reads inside the slice. -/
theorem serverNameTurn_eq (hend : snEnd ≤ record.length) (hpos : pos + 3 ≤ snEnd) :
    serverNameTurn record snEnd pos = value
      (if pos + 3 + beAt record (pos + 1) 2 > snEnd then .inr none
      else if beAt record pos 1 = 0 then .inr (textAt record (pos + 3, beAt record (pos + 1) 2))
      else .inl (pos + 3 + beAt record (pos + 1) 2)) := by
  rw [serverNameTurn, if_pos hpos, index_eq (by omega), u16At_eq (by omega), value_bind, value_bind]
  dsimp only
  split
  · rfl
  · next hlen =>
      have hhost : record[pos] = 0 ↔ beAt record pos 1 = 0 := getElem_eq_iff_beAt (by omega) rfl
      by_cases hzero : record[pos] = 0
      · rw [if_pos hzero, if_pos (hhost.mp hzero),
          range_eq (by omega) (by omega), value_bind, Nat.add_sub_cancel_left]
        rfl
      · rw [if_neg hzero, if_neg (mt hhost.mpr hzero)]
        rfl

/-- One turn of the inner loop, with fuel for the rest of the list. -/
theorem serverNameLoop_next (hpos : pos + 3 ≤ snEnd) :
    serverNameLoop record snEnd (snEnd - pos) pos =
      if pos + 3 + beAt record (pos + 1) 2 > snEnd then none
      else if beAt record pos 1 = 0 then some (pos + 3, beAt record (pos + 1) 2)
      else serverNameLoop record snEnd (snEnd - (pos + 3 + beAt record (pos + 1) 2))
        (pos + 3 + beAt record (pos + 1) 2) := by
  obtain ⟨fuel, hfuel⟩ : ∃ fuel, snEnd - pos = fuel + 1 := ⟨snEnd - pos - 1, by omega⟩
  rw [hfuel, serverNameLoop, if_pos hpos]
  dsimp only
  rw [serverNameLoop_fuel (by omega) le_rfl]

/-- The inner loop ends within the turns that cover the list. -/
theorem loop_serverNameTurn (hend : snEnd ≤ record.length) (hturns : snEnd - pos < turns) :
    loop (serverNameTurn record snEnd) turns pos =
      value ((serverNameLoop record snEnd (snEnd - pos) pos).bind (textAt record)) := by
  refine loop_eq (fun _ ↦ True) (fun pos ↦ snEnd - pos)
    (fun pos ↦ (serverNameLoop record snEnd (snEnd - pos) pos).bind (textAt record))
    (fun pos _ ↦ ?_) trivial hturns
  by_cases hpos : pos + 3 ≤ snEnd
  · rw [serverNameTurn_eq hend hpos, serverNameLoop_next hpos]
    split
    · exact .inl rfl
    · split
      · exact .inl rfl
      · exact .inr ⟨_, rfl, trivial, by omega, rfl⟩
  · rw [serverNameTurn, if_neg hpos, serverNameLoop_eq_none (by omega)]
    exact .inl rfl

/-- A turn of the outer loop inside the extensions reads inside the slice, and the
inner loop it may come to ends. -/
theorem extensionTurn_eq (hend : extEnd ≤ record.length) (hturns : record.length ≤ turns)
    (hpos : pos + 4 ≤ extEnd) :
    extensionTurn turns record extEnd pos = value
      (if pos + 4 + beAt record (pos + 2) 2 > extEnd then .inr none
      else if beAt record pos 2 = 0 then
        if beAt record (pos + 2) 2 < 2 then .inr none
        else .inr ((serverNameLoop record (pos + 4 + beAt record (pos + 2) 2)
          (beAt record (pos + 2) 2 - 2) (pos + 4 + 2)).bind (textAt record))
      else .inl (pos + 4 + beAt record (pos + 2) 2)) := by
  rw [extensionTurn, if_pos hpos, u16At_eq (by omega), u16At_eq (by omega), value_bind, value_bind]
  dsimp only
  split
  · rfl
  · split
    · split
      · rfl
      · rw [loop_serverNameTurn (by omega) (by omega), Nat.add_sub_add_left]
        rfl
    · rfl

/-- One turn of the outer loop, with fuel for the rest of the extensions. -/
theorem extensionLoop_next (hpos : pos + 4 ≤ extEnd) :
    extensionLoop record extEnd (extEnd - pos) pos =
      if pos + 4 + beAt record (pos + 2) 2 > extEnd then none
      else if beAt record pos 2 = 0 then
        if beAt record (pos + 2) 2 < 2 then none
        else serverNameLoop record (pos + 4 + beAt record (pos + 2) 2)
          (beAt record (pos + 2) 2 - 2) (pos + 4 + 2)
      else extensionLoop record extEnd (extEnd - (pos + 4 + beAt record (pos + 2) 2))
        (pos + 4 + beAt record (pos + 2) 2) := by
  obtain ⟨fuel, hfuel⟩ : ∃ fuel, extEnd - pos = fuel + 1 := ⟨extEnd - pos - 1, by omega⟩
  rw [hfuel, extensionLoop, if_pos hpos]
  dsimp only
  rw [extensionLoop_fuel (by omega) le_rfl]

/-- The outer loop ends within as many turns as the slice has bytes. -/
theorem loop_extensionTurn (hend : extEnd ≤ record.length) (hturns : record.length ≤ turns)
    (hpos : 0 < pos) (hfuel : 0 < turns) :
    loop (extensionTurn turns record extEnd) turns pos =
      value ((extensionLoop record extEnd (extEnd - pos) pos).bind (textAt record)) := by
  refine loop_eq (fun _ ↦ True) (fun pos ↦ extEnd - pos)
    (fun pos ↦ (extensionLoop record extEnd (extEnd - pos) pos).bind (textAt record))
    (fun pos _ ↦ ?_) trivial (by omega)
  by_cases hpos : pos + 4 ≤ extEnd
  · rw [extensionTurn_eq hend hturns hpos, extensionLoop_next hpos]
    split
    · exact .inl rfl
    · split
      · split
        · exact .inl rfl
        · exact .inl rfl
      · exact .inr ⟨_, rfl, trivial, by omega, rfl⟩
  · rw [extensionTurn, if_neg hpos, extensionLoop_eq_none (by omega)]
    exact .inl rfl

end Loops

/-! ## The parser -/

theorem helloSni_eq_none {r : List UInt8} (h : r.length < extensionsEnd r) : helloSni r = none := by
  rw [helloSni, helloHostName_eq_ite, if_neg (Nat.not_le.mpr h)]
  rfl

/-- The walk over the fields of the ClientHello stays in the slice. -/
theorem helloSniChecked_eq {r : List UInt8} {turns : Nat} (hturns : r.length ≤ turns) :
    helloSniChecked turns r = value (helloSni r) := by
  obtain ⟨h₁, h₂, h₃, h₄⟩ := fields_le r
  have hnone (h : r.length < extensionsEnd r) : (pure none : Checked (Option String)) =
      value (helloSni r) := by
    rw [helloSni_eq_none h, pure_eq_value]
  rw [helloSniChecked]
  dsimp only
  split
  · exact hnone (by omega)
  · next hsession =>
      have hpos : 9 + (2 + 32) + (1 + r[9 + (2 + 32)].toNat) = sessionIdEnd r := by
        rw [sessionIdEnd, fieldEnd, beAt_one (by omega)]
        exact (Nat.add_assoc 43 1 _).symm
      rw [index_eq (by omega), value_bind, hpos]
      split
      · exact hnone (by omega)
      · next hciphers =>
          have hpos : sessionIdEnd r + (2 + beAt r (sessionIdEnd r) 2) = cipherSuitesEnd r := by
            rw [cipherSuitesEnd, fieldEnd, Nat.add_assoc]
          rw [u16At_eq (by omega), value_bind, hpos]
          split
          · exact hnone (by omega)
          · next hcompression =>
              have hpos : cipherSuitesEnd r + (1 + r[cipherSuitesEnd r].toNat) =
                  compressionEnd r := by
                rw [compressionEnd, fieldEnd, beAt_one (by omega), Nat.add_assoc]
              rw [index_eq (by omega), value_bind, hpos]
              split
              · exact hnone (by omega)
              · next hextensions =>
                  rw [u16At_eq (by omega), value_bind]
                  change (if extensionsEnd r > r.length then pure none
                    else loop (extensionTurn turns r (extensionsEnd r)) turns
                      (compressionEnd r + 2)) = _
                  split
                  · exact hnone (by omega)
                  · rw [loop_extensionTurn (by omega) hturns (by omega) (by omega), helloSni,
                      helloHostName_eq_ite, if_pos (by omega)]
                    rfl

/-- Whatever the bytes are, `parse_tls_sni` returns: no access reaches outside the
slice, and both loops end within as many turns as the slice has bytes. -/
theorem parseTlsSniChecked_eq {record : List UInt8} {turns : Nat}
    (hturns : record.length ≤ turns) :
    parseTlsSniChecked turns record = value (parseTlsSni record) := by
  rw [parseTlsSniChecked, parseTlsSni, ite_or, ite_or]
  split
  · rfl
  · next hlen =>
      have htype : record[0] = 0x16 ↔ beAt record 0 1 = 0x16 :=
        getElem_eq_iff_beAt (by omega) rfl
      rw [index_eq (by omega), value_bind]
      by_cases hrecord : record[0] = 0x16
      · rw [if_neg (not_not.mpr hrecord), if_neg (not_not.mpr (htype.mp hrecord)),
          u16At_eq (by omega), value_bind]
        change (if recLen record + 5 > record.length then pure none else _) = _
        split
        · rfl
        · split
          · rfl
          · next hhead =>
              have hmessage : record[5] = 0x01 ↔ beAt record 5 1 = 0x01 :=
                getElem_eq_iff_beAt (by omega) rfl
              rw [index_eq (by omega), value_bind]
              by_cases hhello : record[5] = 0x01
              · rw [if_neg (not_not.mpr hhello), if_neg (not_not.mpr (hmessage.mp hhello)),
                  index_eq (by omega), value_bind, index_eq (by omega), value_bind,
                  index_eq (by omega), value_bind, Framing.shiftLeft_or_eq, ← beAt_three (by omega)]
                change (if 9 + hsLen record > record.length then pure none else _) = _
                split
                · rfl
                · exact helloSniChecked_eq hturns
              · rw [if_pos hhello, if_pos (mt hmessage.mpr hhello)]
                rfl
      · rw [if_pos hrecord, if_pos (mt htype.mpr hrecord)]
        rfl

theorem parseTlsSniChecked_helloRecord :
    parseTlsSniChecked 62 (helloRecord 53) = value (some "a") := by
  have hlen : (helloRecord 53).length ≤ 62 := by decide
  rw [parseTlsSniChecked_eq hlen]
  have hname : parseTlsSni (helloRecord 53) = some "a" := by decide +kernel
  rw [hname]

end Arp.Server
