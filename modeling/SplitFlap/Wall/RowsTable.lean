/-
  SplitFlap.Wall.RowsTable — the boards of the wall, as the master stores them.

  `WallRows.h`: a table is judged by `wallRowsValidate` — who the boards are,
  then the grid of `ClusterLayout.h` — and stored as one line of text,
  `id|host|row|col|width;...`.  Neither separator is in a board's name or in an
  address, so the line splits back into the fields it was joined from
  (`wallRowsFromString_toString`); and the fields of a line that was read hold
  no separator either, whatever they say.
-/
import SplitFlap.Link.Names
import SplitFlap.Wall.Layout

namespace SplitFlap

abbrev WALL_ROW_ID_MAX : Nat := 32
abbrev CLUSTER_HOST_MAX_LEN : Nat := 40

/-! ## §1. Addresses. -/

/-- `lanPrivateIpv4`, its loop: the octets so far, the value and the number of
digits of the one being read. -/
def lanOctets : (octets : List Nat) → (value digits : Nat) → CStr → Option (List Nat)
  | octets, _, _, [] => some octets
  | octets, value, digits, c :: rest =>
      if c = 46 then
        if digits = 0 || digits > 3 || octets.length ≥ 4 then none
        else lanOctets (octets ++ [value]) 0 0 rest
      else if isDigit c then
        if value * 10 + (c.toNat - 48) > 255 then none
        else lanOctets octets (value * 10 + (c.toNat - 48)) (digits + 1) rest
      else none

/-- A dotted quad of a private network; the end of the text counts as a dot. -/
def lanPrivateIpv4 (host : CStr) : Bool :=
  match lanOctets [] 0 0 (host ++ [46]) with
  | some [a, b, _, _] =>
      a = 10 || a = 127 || (a = 192 && b = 168) || (a = 172 && 16 ≤ b && b ≤ 31)
  | _ => false

/-- The digits of one octet. -/
def readOctet : (value : Nat) → CStr → Option (Nat × CStr)
  | value, [] => some (value, [])
  | value, c :: rest =>
      if isDigit c then
        if value * 10 + (c.toNat - 48) > 255 then none
        else readOctet (value * 10 + (c.toNat - 48)) rest
      else some (value, c :: rest)

/-- `n` octets with dots between them, none with a leading zero. -/
def readOctets : (n : Nat) → CStr → Option (List Nat × CStr)
  | 0, p => some ([], p)
  | n + 1, p =>
      if !p.head?.any isDigit then none
      else if p.head? = some 48 && p.tail.head?.any isDigit then none
      else
        match readOctet 0 p with
        | none => none
        | some (value, rest) =>
            if n = 0 then some ([value], rest)
            else if rest.head? ≠ some 46 then none
            else (readOctets n rest.tail).map fun more => (value :: more.1, more.2)

/-- `wallRowHostParse`: the address in network byte order. -/
def wallRowHostParse (host : CStr) : Option (List Nat) :=
  match readOctets 4 host with
  | some (out, []) => if out.head? ≠ some 127 && lanPrivateIpv4 host then some out else none
  | _ => none

/-! ## §2. The stored form. -/

def rowToString (r : WallRowDef) : CStr :=
  [124].intercalate
    [r.id, r.host, decimal r.row.toNat, decimal r.col.toNat, decimal r.width.toNat]

def wallRowsToString (table : WallRowsTable) : CStr :=
  [59].intercalate (table.rows.map rowToString)

def wallRowsParseByte (field : CStr) : Option UInt8 :=
  if field.length = 0 || field.length > 3 then none
  else if field.all isDigit then
    if digitsValue 0 field > 255 then none else some (UInt8.ofNat (digitsValue 0 field))
  else none

/-- An entry: five fields between four bars. -/
def rowFromString (entry : CStr) : Option WallRowDef :=
  match entry.splitOn 124 with
  | [id, host, row, col, width] =>
      if id.length > WALL_ROW_ID_MAX || host.length > CLUSTER_HOST_MAX_LEN then none
      else
        (wallRowsParseByte row).bind fun row =>
          (wallRowsParseByte col).bind fun col =>
            (wallRowsParseByte width).map fun width =>
              { id := id, host := host, row := row, col := col, width := width }
  | _ => none

/-- The loop over the entries, `count` of them read. -/
def rowsFromEntries : (count : Nat) → List CStr → Option (List WallRowDef)
  | _, [] => some []
  | count, entry :: entries =>
      if count ≥ CLUSTER_MAX_MEMBERS then none
      else
        (rowFromString entry).bind fun r =>
          (rowsFromEntries (count + 1) entries).map (r :: ·)

/-- The rows of a stored line; the empty line is the empty table. -/
def storedRows (stored : CStr) : Option (List WallRowDef) :=
  if stored = [] then some [] else rowsFromEntries 0 (stored.splitOn 59)

/-! ## §3. The judgement. -/

/-- One row of `wallRowsValidate`'s loop: whether the master's own row has been
seen by now, or the message for the operator. -/
def judgeRow (before : List WallRowDef) (own : Bool) (r : WallRowDef) : Except String Bool :=
  if wallRowIsOwn r then
    if own then .error "Only one row can be the master's own"
    else if r.host ≠ [] then .error "The master's own row has no address"
    else .ok true
  else if !isValidDeviceName r.id then .error "A row id is not a board name"
  else if (wallRowHostParse r.host).isNone then
    .error "A row's address is not on the local network"
  else if before.any fun o => o.id = r.id then .error "Two rows carry the same id"
  else .ok own

def judgeRows : (before : List WallRowDef) → (own : Bool) → List WallRowDef → Except String Unit
  | _, _, [] => .ok ()
  | before, own, r :: rest =>
      match judgeRow before own r with
      | .error message => .error message
      | .ok own => judgeRows (before ++ [r]) own rest

def wallRowsValidate (table : WallRowsTable) : Except String ClusterGrid :=
  match judgeRows [] false table.rows with
  | .error message => .error message
  | .ok () => validateMemberTable (wallRowsLayout table)

/-! ## §4. Lines and their fields. -/

theorem rowsFromEntries_length {entries : List CStr} :
    ∀ {count : Nat} {rows : List WallRowDef}, rowsFromEntries count entries = some rows →
      rows ≠ [] → count + rows.length ≤ CLUSTER_MAX_MEMBERS := by
  induction entries with
  | nil =>
      intro count rows h hne
      cases h
      exact absurd rfl hne
  | cons entry entries ih =>
      intro count rows h _
      unfold rowsFromEntries at h
      split at h
      · cases h
      · next hroom =>
          obtain ⟨r, _, h⟩ := Option.bind_eq_some_iff.mp h
          obtain ⟨rest, hrest, rfl⟩ := Option.map_eq_some_iff.mp h
          by_cases hlast : rest = []
          · subst hlast
            show count + 1 ≤ _
            omega
          · have hmore := ih hrest hlast
            rw [List.length_cons]
            omega

theorem storedRows_fits {stored : CStr} {rows : List WallRowDef} (h : storedRows stored = some rows) :
    rows.length ≤ WALL_LINK_MAX_ROWS := by
  by_cases hne : rows = []
  · subst hne
    exact Nat.zero_le _
  · unfold storedRows at h
    split at h
    · cases h
      exact absurd rfl hne
    · have hlength := rowsFromEntries_length h hne
      rwa [Nat.zero_add] at hlength

/-- `wallRowsFromString`: the shape only. -/
def wallRowsFromString (stored : CStr) : Option WallRowsTable :=
  match h : storedRows stored with
  | none => none
  | some rows => some { rows := rows, fits := storedRows_fits h }

theorem wallRowsFromString_iff {stored : CStr} {table : WallRowsTable} :
    wallRowsFromString stored = some table ↔ storedRows stored = some table.rows := by
  obtain ⟨rows, fits⟩ := table
  unfold wallRowsFromString
  split
  · next hnone =>
      constructor
      · intro h
        cases h
      · intro h
        rw [hnone] at h
        cases h
  · next rows' hsome =>
      constructor
      · intro h
        cases h
        exact hsome
      · intro h
        have heq : rows' = rows := Option.some.inj (hsome.symm.trans h)
        subst heq
        rfl

theorem byte_round (b : UInt8) : wallRowsParseByte (decimal b.toNat) = some b := by
  have hb : b.toNat < 256 := b.toNat_lt
  have hlong : (decimal b.toNat).length ≤ 3 := decimal_length (by omega)
  have hnonempty : (decimal b.toNat).length ≠ 0 := by
    intro hzero
    exact decimal_ne_nil _ (List.eq_nil_of_length_eq_zero hzero)
  unfold wallRowsParseByte
  rw [if_neg (by simp [hnonempty, Nat.not_lt.mpr hlong]),
    if_pos (List.all_eq_true.mpr (decimal_digits b.toNat)), digitsValue_decimal,
    if_neg (by omega), UInt8.ofNat_toNat]

/-- No piece of a split holds what it was split on. -/
theorem not_mem_piece {sep : UInt8} {line piece : CStr} (h : piece ∈ line.splitOn sep) :
    sep ∉ piece := by
  induction line generalizing piece with
  | nil =>
      rw [List.splitOn_nil, List.mem_singleton] at h
      subst h
      exact List.not_mem_nil
  | cons c line ih =>
      rw [List.splitOn_cons_eq_if_modifyHead] at h
      split at h
      · rcases List.mem_cons.mp h with rfl | hmem
        · exact List.not_mem_nil
        · exact ih hmem
      · next hc =>
          cases hpieces : line.splitOn sep with
          | nil => exact absurd hpieces (List.splitOn_ne_nil sep line)
          | cons first others =>
              rw [hpieces, List.modifyHead_cons] at h
              rcases List.mem_cons.mp h with rfl | hmem
              · intro hsep
                rcases List.mem_cons.mp hsep with rfl | hin
                · exact hc (beq_self_eq_true _)
                · exact ih (hpieces ▸ List.mem_cons_self) hin
              · exact ih (hpieces ▸ List.mem_cons_of_mem _ hmem)

theorem mem_joined {sep c : UInt8} {pieces : List CStr} {piece : CStr} (h : piece ∈ pieces)
    (hc : c ∈ piece) : c ∈ [sep].intercalate pieces := by
  induction pieces with
  | nil => exact absurd h List.not_mem_nil
  | cons first pieces ih =>
      cases pieces with
      | nil =>
          rw [List.mem_singleton.mp h] at hc
          rwa [List.intercalate_singleton]
      | cons second pieces =>
          rw [List.intercalate_cons_cons, List.mem_append]
          rcases List.mem_cons.mp h with rfl | hmem
          · exact Or.inl (List.mem_append_left _ hc)
          · exact Or.inr (ih hmem)

/-- A row the stored form can hold: no separator in its texts, and these no
longer than their fields. -/
structure Storable (r : WallRowDef) : Prop where
  idBar : (124 : UInt8) ∉ r.id
  idSemicolon : (59 : UInt8) ∉ r.id
  idFits : r.id.length ≤ WALL_ROW_ID_MAX
  hostBar : (124 : UInt8) ∉ r.host
  hostSemicolon : (59 : UInt8) ∉ r.host
  hostFits : r.host.length ≤ CLUSTER_HOST_MAX_LEN

theorem decimal_no {n : Nat} {c : UInt8} (hc : isDigit c = false) : c ∉ decimal n := by
  intro hmem
  rw [decimal_digits n c hmem] at hc
  exact Bool.noConfusion hc

theorem rowFromString_rowToString {r : WallRowDef} (h : Storable r) :
    rowFromString (rowToString r) = some r := by
  have hsplit : (rowToString r).splitOn 124 =
      [r.id, r.host, decimal r.row.toNat, decimal r.col.toNat, decimal r.width.toNat] := by
    apply List.splitOn_intercalate
    · intro field hfield
      simp only [List.mem_cons, List.not_mem_nil, or_false] at hfield
      rcases hfield with rfl | rfl | rfl | rfl | rfl
      · exact h.idBar
      · exact h.hostBar
      · exact decimal_no rfl
      · exact decimal_no rfl
      · exact decimal_no rfl
    · exact List.cons_ne_nil _ _
  unfold rowFromString
  rw [hsplit]
  dsimp only
  rw [if_neg (by simp [h.idFits, h.hostFits]), byte_round, byte_round, byte_round]
  rfl

theorem semicolon_not_mem_row {r : WallRowDef} (h : Storable r) :
    (59 : UInt8) ∉ rowToString r := by
  unfold rowToString
  simp only [List.intercalate_cons_cons, List.intercalate_singleton, List.mem_append,
    List.mem_singleton, not_or]
  have hbar : (59 : UInt8) ≠ 124 := by decide
  exact ⟨⟨h.idSemicolon, hbar⟩, ⟨h.hostSemicolon, hbar⟩, ⟨decimal_no rfl, hbar⟩,
    ⟨decimal_no rfl, hbar⟩, decimal_no rfl⟩

theorem rowToString_ne_nil (r : WallRowDef) : rowToString r ≠ [] := by
  unfold rowToString
  simp [List.intercalate_cons_cons]

theorem rowsFromEntries_toString {rows : List WallRowDef} (h : ∀ r ∈ rows, Storable r) :
    ∀ count, count + rows.length ≤ CLUSTER_MAX_MEMBERS →
      rowsFromEntries count (rows.map rowToString) = some rows := by
  induction rows with
  | nil => exact fun _ _ => rfl
  | cons r rows ih =>
      intro count hfits
      rw [List.length_cons] at hfits
      rw [List.map_cons, rowsFromEntries, if_neg (by omega),
        rowFromString_rowToString (h r List.mem_cons_self), Option.bind_some,
        ih (fun r' hr' => h r' (List.mem_cons_of_mem _ hr')) (count + 1) (by omega)]
      rfl

/-- **What was stored is read back**, when every row can be stored. -/
theorem wallRowsFromString_toString {table : WallRowsTable} (h : ∀ r ∈ table.rows, Storable r) :
    wallRowsFromString (wallRowsToString table) = some table := by
  rw [wallRowsFromString_iff]
  have hfits : table.rows.length ≤ CLUSTER_MAX_MEMBERS := table.fits
  unfold wallRowsToString storedRows
  cases hrows : table.rows with
  | nil => rfl
  | cons r rows =>
      rw [hrows] at h hfits
      have hne : [59].intercalate ((r :: rows).map rowToString) ≠ [] := by
        intro hnil
        cases rows with
        | nil => exact rowToString_ne_nil r (by simpa using hnil)
        | cons r' rows => simp [List.intercalate_cons_cons] at hnil
      rw [if_neg hne, List.splitOn_intercalate]
      · exact rowsFromEntries_toString h 0 (by omega)
      · intro line hline
        obtain ⟨r', hr', rfl⟩ := List.mem_map.mp hline
        exact semicolon_not_mem_row (h r' hr')
      · exact List.cons_ne_nil _ _

/-- A row that was read can be stored. -/
theorem storable_of_read {entry : CStr} {r : WallRowDef} (h : rowFromString entry = some r)
    (hentry : (59 : UInt8) ∉ entry) : Storable r := by
  unfold rowFromString at h
  split at h
  · next id host row col width hfields =>
      split at h
      · cases h
      · next hfits =>
          simp only [Bool.or_eq_true, decide_eq_true_eq, not_or, Nat.not_lt] at hfits
          obtain ⟨row', _, h⟩ := Option.bind_eq_some_iff.mp h
          obtain ⟨col', _, h⟩ := Option.bind_eq_some_iff.mp h
          obtain ⟨width', _, rfl⟩ := Option.map_eq_some_iff.mp h
          have hsub : ∀ field ∈ entry.splitOn 124, (59 : UInt8) ∉ field := by
            intro field hfield hmem
            have hjoin : [124].intercalate (entry.splitOn 124) = entry :=
              List.intercalate_splitOn 124
            rw [← hjoin] at hentry
            exact hentry (mem_joined hfield hmem)
          have hid : id ∈ entry.splitOn 124 := by simp [hfields]
          have hhost : host ∈ entry.splitOn 124 := by simp [hfields]
          exact ⟨not_mem_piece hid, hsub id hid, hfits.1, not_mem_piece hhost, hsub host hhost,
            hfits.2⟩
  · cases h

theorem storable_of_entries {entries : List CStr} (hentries : ∀ e ∈ entries, (59 : UInt8) ∉ e) :
    ∀ {count : Nat} {rows : List WallRowDef}, rowsFromEntries count entries = some rows →
      ∀ r ∈ rows, Storable r := by
  induction entries with
  | nil =>
      intro count rows h r hr
      cases h
      exact absurd hr List.not_mem_nil
  | cons entry entries ih =>
      intro count rows h r hr
      unfold rowsFromEntries at h
      split at h
      · cases h
      · obtain ⟨first, hfirst, h⟩ := Option.bind_eq_some_iff.mp h
        obtain ⟨rest, hrest, rfl⟩ := Option.map_eq_some_iff.mp h
        rcases List.mem_cons.mp hr with rfl | hmem
        · exact storable_of_read hfirst (hentries entry List.mem_cons_self)
        · exact ih (fun e he => hentries e (List.mem_cons_of_mem _ he)) hrest r hmem

theorem storable_of_stored {stored : CStr} {table : WallRowsTable}
    (h : wallRowsFromString stored = some table) : ∀ r ∈ table.rows, Storable r := by
  rw [wallRowsFromString_iff] at h
  unfold storedRows at h
  split at h
  · injection h with h
    intro r hr
    rw [← h] at hr
    exact absurd hr List.not_mem_nil
  · exact storable_of_entries (fun e he => not_mem_piece he) h

/-! ## §5. A table that was accepted. -/

/-- The rows are boards: none twice, the master's own without an address, the
others with a name and an address on the local network. -/
structure BoardsHold (rows : List WallRowDef) : Prop where
  own : ∀ r ∈ rows, wallRowIsOwn r = true → r.host = []
  named : ∀ r ∈ rows, wallRowIsOwn r = false → isValidDeviceName r.id = true
  onLan : ∀ r ∈ rows, wallRowIsOwn r = false → (wallRowHostParse r.host).isSome = true
  distinct : rows.Pairwise fun a b => a.id ≠ b.id

theorem judgeRow_ok {before : List WallRowDef} {own : Bool} {r : WallRowDef} {now : Bool}
    (hown : own = before.any wallRowIsOwn) :
    judgeRow before own r = .ok now ↔ now = (own || wallRowIsOwn r) ∧
      (wallRowIsOwn r = true → r.host = []) ∧
      (wallRowIsOwn r = false → isValidDeviceName r.id = true ∧
        (wallRowHostParse r.host).isSome = true) ∧ ∀ o ∈ before, o.id ≠ r.id := by
  unfold judgeRow
  cases hr : wallRowIsOwn r with
  | true =>
      have hid : r.id = [] := of_decide_eq_true hr
      rw [if_pos rfl]
      have hsame : own = true ↔ ¬∀ o ∈ before, o.id ≠ r.id := by
        rw [hown, List.any_eq_true, hid]
        simp only [wallRowIsOwn, decide_eq_true_eq, ne_eq, not_forall, Decidable.not_not]
        exact ⟨fun ⟨o, ho, hoid⟩ => ⟨o, ho, hoid⟩, fun ⟨o, ho, hoid⟩ => ⟨o, ho, hoid⟩⟩
      by_cases hseen : own = true
      · rw [if_pos hseen]
        exact ⟨fun h => (nomatch h), fun h => absurd h.2.2.2 (hsame.mp hseen)⟩
      · rw [if_neg hseen]
        have hapart : ∀ o ∈ before, o.id ≠ r.id := Decidable.not_not.mp (mt hsame.mpr hseen)
        rw [Bool.not_eq_true] at hseen
        by_cases hhost : r.host = []
        · rw [if_neg (not_not_intro hhost), hseen]
          constructor
          · intro h
            cases h
            exact ⟨rfl, fun _ => hhost, fun h => Bool.noConfusion h, hapart⟩
          · intro h
            rw [h.1]
            rfl
        · rw [if_pos hhost]
          exact ⟨fun h => (nomatch h), fun h => absurd (h.2.1 rfl) hhost⟩
  | false =>
      rw [if_neg Bool.false_ne_true, Bool.or_false]
      by_cases hname : isValidDeviceName r.id = true
      · rw [if_neg (by simp [hname])]
        cases hhost : wallRowHostParse r.host with
        | none =>
            rw [if_pos (by simp)]
            exact ⟨fun h => (nomatch h), fun h => Bool.noConfusion (h.2.2.1 rfl).2⟩
        | some address =>
            rw [if_neg (by simp)]
            by_cases htwice : (before.any fun o => o.id = r.id) = true
            · rw [if_pos htwice]
              obtain ⟨o, ho, hoid⟩ := List.any_eq_true.mp htwice
              exact ⟨fun h => (nomatch h), fun h => absurd (of_decide_eq_true hoid) (h.2.2.2 o ho)⟩
            · rw [if_neg htwice]
              constructor
              · intro h
                cases h
                refine ⟨rfl, fun h => Bool.noConfusion h, fun _ => ⟨hname, rfl⟩, ?_⟩
                intro o ho hoid
                exact htwice (List.any_eq_true.mpr ⟨o, ho, decide_eq_true hoid⟩)
              · intro h
                rw [h.1]
      · rw [if_pos (by simp [hname])]
        exact ⟨fun h => (nomatch h), fun h => absurd (h.2.2.1 rfl).1 hname⟩

/-- What the loop accepts, from any row on. -/
theorem judgeRows_ok {rows : List WallRowDef} : ∀ {before : List WallRowDef} {own : Bool},
    own = before.any wallRowIsOwn →
      (judgeRows before own rows = .ok () ↔
        BoardsHold rows ∧ ∀ o ∈ before, ∀ r ∈ rows, o.id ≠ r.id) := by
  induction rows with
  | nil =>
      intro before own _
      refine ⟨fun _ => ⟨⟨?_, ?_, ?_, List.Pairwise.nil⟩, ?_⟩, fun _ => rfl⟩
      all_goals simp
  | cons r rows ih =>
      intro before own hown
      unfold judgeRows
      have hnext : (own || wallRowIsOwn r) = (before ++ [r]).any wallRowIsOwn := by
        rw [List.any_append, hown]
        simp
      constructor
      · intro h
        cases hrow : judgeRow before own r with
        | error message =>
            rw [hrow] at h
            cases h
        | ok now =>
            rw [hrow] at h
            obtain ⟨hnow, hownHost, hboard, hapart⟩ := (judgeRow_ok hown).mp hrow
            subst hnow
            obtain ⟨hrest, hlater⟩ := (ih hnext).mp h
            refine ⟨⟨?_, ?_, ?_, ?_⟩, ?_⟩
            · rintro x hx
              rcases List.mem_cons.mp hx with rfl | hx
              · exact hownHost
              · exact hrest.own x hx
            · rintro x hx
              rcases List.mem_cons.mp hx with rfl | hx
              · exact fun hno => (hboard hno).1
              · exact hrest.named x hx
            · rintro x hx
              rcases List.mem_cons.mp hx with rfl | hx
              · exact fun hno => (hboard hno).2
              · exact hrest.onLan x hx
            · refine List.pairwise_cons.mpr ⟨?_, hrest.distinct⟩
              exact fun x hx => hlater r (List.mem_append_right _ List.mem_cons_self) x hx
            · intro o ho x hx
              rcases List.mem_cons.mp hx with rfl | hx
              · exact hapart o ho
              · exact hlater o (List.mem_append_left _ ho) x hx
      · rintro ⟨hall, hbefore⟩
        obtain ⟨hfirst, hdistinct⟩ := List.pairwise_cons.mp hall.distinct
        have hrow : judgeRow before own r = .ok (own || wallRowIsOwn r) := by
          refine (judgeRow_ok hown).mpr ⟨rfl, hall.own r List.mem_cons_self, ?_, ?_⟩
          · intro hno
            exact ⟨hall.named r List.mem_cons_self hno, hall.onLan r List.mem_cons_self hno⟩
          · exact fun o ho => hbefore o ho r List.mem_cons_self
        rw [hrow]
        refine (ih hnext).mpr ⟨⟨?_, ?_, ?_, hdistinct⟩, ?_⟩
        · exact fun x hx => hall.own x (List.mem_cons_of_mem _ hx)
        · exact fun x hx => hall.named x (List.mem_cons_of_mem _ hx)
        · exact fun x hx => hall.onLan x (List.mem_cons_of_mem _ hx)
        · intro o ho x hx
          rcases List.mem_append.mp ho with ho | ho
          · exact hbefore o ho x (List.mem_cons_of_mem _ hx)
          · rw [List.mem_singleton.mp ho]
            exact hfirst x hx

/-- **What `wallRowsValidate` accepts**: boards, on a grid that holds. -/
theorem wallRowsValidate_ok {table : WallRowsTable} {grid : ClusterGrid} :
    wallRowsValidate table = .ok grid ↔
      BoardsHold table.rows ∧ validateMemberTable (wallRowsLayout table) = .ok grid := by
  have hjudge : judgeRows [] false table.rows = .ok () ↔
      BoardsHold table.rows ∧ ∀ o ∈ ([] : List WallRowDef), ∀ r ∈ table.rows, o.id ≠ r.id :=
    judgeRows_ok rfl
  simp only [List.not_mem_nil, false_implies, implies_true, and_true] at hjudge
  unfold wallRowsValidate
  constructor
  · intro h
    split at h
    · cases h
    · next hok => exact ⟨hjudge.mp hok, h⟩
  · rintro ⟨hboards, hgrid⟩
    rw [hjudge.mpr hboards]
    exact hgrid

/-! ## §6. The round trip. -/

/-- A dotted quad is dots and digits, and no longer than four groups of three
with a dot behind each. -/
theorem lanOctets_shape {text : CStr} : ∀ {octets out : List Nat} {value digits : Nat},
    lanOctets octets value digits (text ++ [46]) = some out →
      (∀ c ∈ text, c = 46 ∨ isDigit c = true) ∧
        digits + text.length + 1 ≤ 4 * (out.length - octets.length) ∧ out.length ≤ 4 ∧
          octets.length < out.length := by
  induction text with
  | nil =>
      intro octets out value digits h
      rw [List.nil_append, lanOctets, if_pos rfl] at h
      split at h
      · cases h
      · next hgroup =>
          simp only [Bool.or_eq_true, decide_eq_true_eq, not_or, Nat.not_lt, Nat.not_le] at hgroup
          rw [lanOctets] at h
          cases h
          rw [List.length_append, List.length_singleton, List.length_nil]
          refine ⟨fun c hc => absurd hc List.not_mem_nil, ?_, ?_, ?_⟩
          · omega
          · omega
          · omega
  | cons c text ih =>
      intro octets out value digits h
      rw [List.cons_append, lanOctets] at h
      split at h
      · next hdot =>
          split at h
          · cases h
          · next hgroup =>
              simp only [Bool.or_eq_true, decide_eq_true_eq, not_or, Nat.not_lt,
                Nat.not_le] at hgroup
              obtain ⟨hall, hlong, hmost, hmore⟩ := ih h
              rw [List.length_append, List.length_singleton] at hlong hmore
              rw [List.length_cons]
              refine ⟨?_, by omega, hmost, by omega⟩
              intro d hd
              rcases List.mem_cons.mp hd with rfl | hd
              · exact Or.inl hdot
              · exact hall d hd
      · split at h
        · next hdigit =>
            split at h
            · cases h
            · obtain ⟨hall, hlong, hmost, hmore⟩ := ih h
              rw [List.length_cons]
              refine ⟨?_, by omega, hmost, hmore⟩
              intro d hd
              rcases List.mem_cons.mp hd with rfl | hd
              · exact Or.inr hdigit
              · exact hall d hd
        · cases h

theorem host_shape {host : CStr} (h : (wallRowHostParse host).isSome = true) :
    (∀ c ∈ host, c = 46 ∨ isDigit c = true) ∧ host.length ≤ CLUSTER_HOST_MAX_LEN := by
  have hlan : lanPrivateIpv4 host = true := by
    unfold wallRowHostParse at h
    split at h
    · split at h
      · next hlocal => exact (Bool.and_eq_true_iff.mp hlocal).2
      · cases h
    · cases h
  unfold lanPrivateIpv4 at hlan
  split at hlan
  · next a b c d hoctets =>
      obtain ⟨hall, hlong, _, _⟩ := lanOctets_shape hoctets
      refine ⟨hall, ?_⟩
      have hlong : 0 + host.length + 1 ≤ 16 := hlong
      show _ ≤ 40
      omega
  · cases hlan

theorem storable_of_board {r : WallRowDef} (hown : wallRowIsOwn r = true → r.host = [])
    (hname : wallRowIsOwn r = false → isValidDeviceName r.id = true)
    (hlan : wallRowIsOwn r = false → (wallRowHostParse r.host).isSome = true) : Storable r := by
  cases hr : wallRowIsOwn r with
  | true =>
      have hid : r.id = [] := of_decide_eq_true hr
      have hhost := hown hr
      constructor
      · simp [hid]
      · simp [hid]
      · simp [hid]
      · simp [hhost]
      · simp [hhost]
      · simp [hhost]
  | false =>
      obtain ⟨_, hmost, _, _, hlabel⟩ := labelSafe_iff.mp (hname hr)
      obtain ⟨hchars, hlong⟩ := host_shape (hlan hr)
      have hmost : r.id.length ≤ 24 := hmost
      have hseparator : ∀ c ∈ r.host, c ≠ 124 ∧ c ≠ 59 := by
        intro c hc
        rcases hchars c hc with rfl | hdigit
        · decide
        · constructor
          · rintro rfl
            exact absurd hdigit (by decide)
          · rintro rfl
            exact absurd hdigit (by decide)
      constructor
      · exact fun hbar => absurd (hlabel _ hbar) (by decide)
      · exact fun hsemicolon => absurd (hlabel _ hsemicolon) (by decide)
      · show _ ≤ 32
        omega
      · exact fun hbar => (hseparator _ hbar).1 rfl
      · exact fun hsemicolon => (hseparator _ hsemicolon).2 rfl
      · exact hlong

theorem storable_of_valid {table : WallRowsTable} (h : BoardsHold table.rows) :
    ∀ r ∈ table.rows, Storable r :=
  fun r hr => storable_of_board (h.own r hr) (h.named r hr) (h.onLan r hr)

/-- **The stored rows table round-trips**: a table that was accepted is read back
as it is, and so is the table of any line that is read. -/
theorem rows_round_trip (table : WallRowsTable) (stored : CStr) :
    (∀ grid, wallRowsValidate table = .ok grid →
      wallRowsFromString (wallRowsToString table) = some table) ∧
    (wallRowsFromString stored = some table →
      wallRowsFromString (wallRowsToString table) = some table) := by
  constructor
  · intro grid hvalid
    exact wallRowsFromString_toString (storable_of_valid (wallRowsValidate_ok.mp hvalid).1)
  · intro hread
    exact wallRowsFromString_toString (storable_of_stored hread)

/-- The master's own row and one board below it. -/
def ownAndOne : WallRowsTable :=
  { rows := [{ width := 5 },
      { id := ascii "row-b", host := ascii "192.168.1.50", row := 1, width := 5 }] }

theorem rows_round_trip_two :
    wallRowsFromString (wallRowsToString ownAndOne) = some ownAndOne ∧
      wallRowsFromString (wallRowsToString ownAndOne) = some ownAndOne := by
  have hgrid : ∃ grid, wallRowsValidate ownAndOne = .ok grid := by
    cases h : wallRowsValidate ownAndOne with
    | ok grid => exact ⟨grid, rfl⟩
    | error message =>
        have hok : (wallRowsValidate ownAndOne).isOk = true := by decide +kernel
        rw [h] at hok
        exact Bool.noConfusion hok
  obtain ⟨grid, hvalid⟩ := hgrid
  have hread : wallRowsFromString (ascii "||0|0|5;row-b|192.168.1.50|1|0|5") = some ownAndOne := by
    rw [wallRowsFromString_iff]
    decide +kernel
  exact ⟨(rows_round_trip ownAndOne []).1 grid hvalid,
    (rows_round_trip ownAndOne (ascii "||0|0|5;row-b|192.168.1.50|1|0|5")).2 hread⟩

end SplitFlap
