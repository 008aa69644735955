/-
  SplitFlap.Link.Chunking — the wall link's messages do not depend on how the
  bytes arrive.

  `WlReader::parse` is a framing in the sense of `SplitFlap.Lib.Framing`, and a
  full buffer never answers `NeedMore`.  From these two facts:

    • `take_spec`, `takeTick_spec` — both read loops end, and over any chunk
      they read on exactly where the stream stood,
    • `stream_framing` — over any cuts of any stream both loops give the
      bodies, the verdict and the position of the uncut stream, and read back
      what was written with a minimal length prefix.
-/
import Mathlib.Data.Nat.Bitwise
import SplitFlap.Lib.Framing
import SplitFlap.Lib.Varint
import SplitFlap.Link.Stream

namespace SplitFlap

open Framing

/-! ## §1. The length prefix. -/

namespace WlReader

variable {maxBody : Nat}

theorem scanPrefix_append (ys : Bytes) :
    ∀ {xs : Bytes} {i len : Nat} {p : Nat × Nat},
      scanPrefix i len xs = some p → scanPrefix i len (xs ++ ys) = some p
  | [], _, _, _, h => by simp [scanPrefix] at h
  | b :: xs, i, len, p, h => by
      simp only [scanPrefix, List.cons_append] at h ⊢
      split at h
      · next hi =>
          rw [if_pos hi]
          split at h
          · next hb => rw [if_pos hb]; exact h
          · next hb => rw [if_neg hb]; exact scanPrefix_append ys h
      · cases h

/-- A prefix that three bytes did not end is not ended by more of them. -/
theorem scanPrefix_none_append (ys : Bytes) :
    ∀ {xs : Bytes} {i len : Nat},
      scanPrefix i len xs = none → WL_PREFIX_MAX ≤ i + xs.length →
      scanPrefix i len (xs ++ ys) = none
  | [], i, len, _, hlen => by
      cases ys with
      | nil => rfl
      | cons b ys =>
          simp only [List.length_nil] at hlen
          simp only [List.nil_append, scanPrefix, if_neg (show ¬ i < WL_PREFIX_MAX by omega)]
  | b :: xs, i, len, h, hlen => by
      simp only [scanPrefix, List.cons_append] at h ⊢
      simp only [List.length_cons] at hlen
      split at h
      · next hi =>
          rw [if_pos hi]
          split at h
          · cases h
          · next hb =>
              rw [if_neg hb]
              exact scanPrefix_none_append ys h (by omega)
      · next hi => rw [if_neg hi]

/-- Where a prefix that ended lies. -/
theorem scanPrefix_bounds :
    ∀ {xs : Bytes} {i len : Nat} {p : Nat × Nat}, scanPrefix i len xs = some p →
      i < p.2 ∧ p.2 ≤ WL_PREFIX_MAX ∧ p.2 ≤ i + xs.length
  | [], _, _, _, h => by simp [scanPrefix] at h
  | b :: xs, i, len, p, h => by
      simp only [scanPrefix] at h
      simp only [List.length_cons]
      split at h
      · next hi =>
          split at h
          · injection h with h
            subst h
            exact ⟨by simp, hi, by omega⟩
          · have ih := scanPrefix_bounds h
            exact ⟨by omega, ih.2.1, by omega⟩
      · cases h

/-! ## §2. `parse` is a framing. -/

/-- The message in front of a buffer, as an item of its prefix and body. -/
def look (maxBody : Nat) (buf : Bytes) : Look Bytes :=
  match parse maxBody buf with
  | (.message, pre, len) => .item (pre + len) ((buf.drop pre).take len)
  | (.bad, _, _) => .bad
  | (.needMore, _, _) => .more

theorem parse_some {buf : Bytes} {len pre : Nat} (h : scanPrefix 0 0 buf = some (len, pre)) :
    parse maxBody buf =
      if maxBody < len then (.bad, 0, 0)
      else if pre + len ≤ buf.length then (.message, pre, len)
      else (.needMore, pre, len) := by
  simp only [parse, h]

theorem parse_none {buf : Bytes} (h : scanPrefix 0 0 buf = none) :
    parse maxBody buf = if WL_PREFIX_MAX ≤ buf.length then (.bad, 0, 0) else (.needMore, 0, 0) := by
  simp only [parse, h]

theorem look_item_iff {buf body : Bytes} {n : Nat} :
    look maxBody buf = .item n body ↔
      ∃ len pre, scanPrefix 0 0 buf = some (len, pre) ∧ len ≤ maxBody ∧ pre + len ≤ buf.length ∧
        n = pre + len ∧ body = (buf.drop pre).take len := by
  unfold look
  cases hs : scanPrefix 0 0 buf with
  | none =>
      rw [parse_none hs]
      by_cases hlen : WL_PREFIX_MAX ≤ buf.length <;> simp [hlen]
  | some p =>
      obtain ⟨len, pre⟩ := p
      rw [parse_some hs]
      by_cases hbig : maxBody < len
      · simp only [if_pos hbig]
        constructor
        · intro h; cases h
        · rintro ⟨l, q, hp, hl, _⟩
          injection hp with hp
          injection hp with h1 _
          omega
      · simp only [if_neg hbig]
        by_cases hall : pre + len ≤ buf.length
        · simp only [if_pos hall, Look.item.injEq]
          constructor
          · rintro ⟨rfl, rfl⟩
            exact ⟨len, pre, rfl, by omega, hall, rfl, rfl⟩
          · rintro ⟨l, q, hp, _, _, rfl, rfl⟩
            injection hp with hp
            injection hp with h1 h2
            subst h1 h2
            exact ⟨rfl, rfl⟩
        · simp only [if_neg hall]
          constructor
          · intro h; cases h
          · rintro ⟨l, q, hp, _, hle, _⟩
            injection hp with hp
            injection hp with h1 h2
            omega

theorem look_bad_iff {buf : Bytes} :
    look maxBody buf = .bad ↔
      (∃ len pre, scanPrefix 0 0 buf = some (len, pre) ∧ maxBody < len) ∨
      (scanPrefix 0 0 buf = none ∧ WL_PREFIX_MAX ≤ buf.length) := by
  unfold look
  cases hs : scanPrefix 0 0 buf with
  | none =>
      rw [parse_none hs]
      by_cases hlen : WL_PREFIX_MAX ≤ buf.length <;> simp [hlen]
  | some p =>
      obtain ⟨len, pre⟩ := p
      rw [parse_some hs]
      by_cases hbig : maxBody < len
      · simp [hbig]
      · by_cases hall : pre + len ≤ buf.length <;> simp [hbig, hall]

/-- **A full buffer never answers `NeedMore`.** -/
theorem look_full {buf : Bytes} (hfull : WL_PREFIX_MAX + maxBody ≤ buf.length) :
    look maxBody buf ≠ .more := by
  unfold look
  cases hs : scanPrefix 0 0 buf with
  | none =>
      rw [parse_none hs, if_pos (by omega)]
      simp
  | some p =>
      obtain ⟨len, pre⟩ := p
      have hpre : pre ≤ WL_PREFIX_MAX := (scanPrefix_bounds hs).2.1
      rw [parse_some hs]
      by_cases hbig : maxBody < len
      · simp [hbig]
      · simp [hbig, show pre + len ≤ buf.length by omega]

/-- The wall link's framing. -/
def frame (maxBody : Nat) : Frame UInt8 Bytes where
  look := look maxBody
  item_pos := by
    intro xs n v h
    obtain ⟨len, pre, hs, _, _, rfl, _⟩ := look_item_iff.mp h
    have := (scanPrefix_bounds hs).1
    omega
  item_le := by
    intro xs n v h
    obtain ⟨len, pre, _, _, hle, rfl, _⟩ := look_item_iff.mp h
    exact hle
  item_append := by
    intro xs n v ys h
    obtain ⟨len, pre, hs, hlen, hle, rfl, rfl⟩ := look_item_iff.mp h
    refine look_item_iff.mpr ⟨len, pre, scanPrefix_append ys hs, hlen, ?_, rfl, ?_⟩
    · rw [List.length_append]; omega
    · rw [List.drop_append_of_le_length (by omega), List.take_append_of_le_length]
      rw [List.length_drop]; omega
  bad_append := by
    intro xs ys h
    refine look_bad_iff.mpr ?_
    rcases look_bad_iff.mp h with ⟨len, pre, hs, hbig⟩ | ⟨hs, hlen⟩
    · exact Or.inl ⟨len, pre, scanPrefix_append ys hs, hbig⟩
    · refine Or.inr ⟨scanPrefix_none_append ys hs (by omega), ?_⟩
      rw [List.length_append]; omega

/-! ## §3. The reader against the framing. -/

theorem pop_buf_eq (r : WlReader maxBody) :
    r.pop.buf =
      if (parse maxBody r.buf).1 = .message then
        r.buf.drop ((parse maxBody r.buf).2.1 + (parse maxBody r.buf).2.2)
      else r.buf := by
  by_cases h : (parse maxBody r.buf).1 = .message <;> simp [pop, h]

theorem peek_eq_message_iff {r : WlReader maxBody} :
    r.peek = .message ↔ ∃ n v, (frame maxBody).look r.buf = .item n v := by
  show _ ↔ ∃ n v, look maxBody r.buf = _
  unfold look peek
  rcases parse maxBody r.buf with ⟨v, pre, len⟩
  cases v <;> simp

theorem peek_eq_bad_iff {r : WlReader maxBody} :
    r.peek = .bad ↔ (frame maxBody).look r.buf = .bad := by
  show _ ↔ look maxBody r.buf = _
  unfold look peek
  rcases parse maxBody r.buf with ⟨v, pre, len⟩
  cases v <;> simp

theorem pop_buf {r : WlReader maxBody} {n : Nat} {v : Bytes}
    (h : (frame maxBody).look r.buf = .item n v) :
    r.peek = .message ∧ r.pop.buf = r.buf.drop n ∧ r.body = v ∧
      r.buf.length - r.pop.buf.length = n := by
  have hle : n ≤ r.buf.length := (frame maxBody).item_le h
  change look maxBody r.buf = _ at h
  unfold look at h
  rw [pop_buf_eq]
  unfold peek body
  rcases hp : parse maxBody r.buf with ⟨w, pre, len⟩
  rw [hp] at h
  cases w with
  | needMore => cases h
  | bad => cases h
  | message =>
      simp only [Look.item.injEq] at h
      obtain ⟨rfl, rfl⟩ := h
      simp only [if_true, List.length_drop]
      exact ⟨trivial, trivial, trivial, by omega⟩

/-- `t` is what the framing makes of the stream `xs`. -/
structure Reads (xs : Bytes) (t : Taken maxBody) : Prop where
  frames_eq : frames (frame maxBody) xs = { items := t.bodies, bad := t.bad, used := t.popped }
  rest_eq : t.bad = false → t.reader.buf = xs.drop t.popped

/-- After a good end the reader waits for more. -/
theorem Reads.waiting {xs : Bytes} {t : Taken maxBody} (h : Reads xs t) (hgood : t.bad = false) :
    (frame maxBody).look t.reader.buf = .more := by
  have hbad : (frames (frame maxBody) xs).bad = false := by
    rw [h.frames_eq]
    exact hgood
  have hlook := look_rest hbad
  rw [h.frames_eq] at hlook
  rw [h.rest_eq hgood]
  exact hlook

/-- Reading on from where a loop left the stream. -/
theorem Reads.andThen {xs ys : Bytes} {t u : Taken maxBody} (ht : Reads xs t)
    (hgood : t.bad = false) (hu : Reads (t.reader.buf ++ ys) u) :
    Reads (xs ++ ys) (t.andThen u) where
  frames_eq := by
    have hrest := hu.frames_eq
    rw [ht.rest_eq hgood] at hrest
    rw [frames_append, ht.frames_eq]
    simp only [hgood, Bool.false_eq_true, if_false, hrest]
    rfl
  rest_eq := by
    intro hu_good
    have hlen : t.popped ≤ xs.length := by
      have hle := frames_used_le (F := frame maxBody) xs
      rw [ht.frames_eq] at hle
      exact hle
    show u.reader.buf = (xs ++ ys).drop (t.popped + u.popped)
    rw [hu.rest_eq hu_good, ht.rest_eq hgood, ← List.drop_drop,
        List.drop_append_of_le_length hlen]

/-- A bad end stands, whatever else arrives. -/
theorem Reads.bad_append {xs : Bytes} (ys : Bytes) {t : Taken maxBody} (ht : Reads xs t)
    (hbad : t.bad = true) : Reads (xs ++ ys) t where
  frames_eq := by
    rw [frames_append, ht.frames_eq]
    simp only [hbad, if_true]
  rest_eq := by
    intro hgood
    rw [hbad] at hgood
    cases hgood

/-! ## §4. The loops. -/

/-- **The inner loop ends and pops exactly the items in front.** -/
theorem popAll_spec :
    ∀ (fuel : Nat) (r : WlReader maxBody), r.buf.length < fuel →
      ∃ t, popAll fuel r = some t ∧ Reads r.buf t
  | 0, _, h => by omega
  | fuel + 1, r, h => by
      cases hl : (frame maxBody).look r.buf with
      | item n v =>
          obtain ⟨hmsg, hbuf, hbody, hlen⟩ := pop_buf hl
          have hpos := (frame maxBody).item_pos hl
          have hle := (frame maxBody).item_le hl
          have hpop : r.pop.buf.length < fuel := by
            rw [hbuf, List.length_drop]; omega
          obtain ⟨t, ht, hreads⟩ := popAll_spec fuel r.pop hpop
          refine ⟨{ t with bodies := v :: t.bodies, popped := n + t.popped }, ?_, ?_, ?_⟩
          · simp only [popAll, if_pos hmsg, ht, Option.map_some, hbody, hlen]
          · rw [frames_item hl, ← hbuf, hreads.frames_eq]
            rfl
          · intro hgood
            rw [hreads.rest_eq hgood, hbuf, List.drop_drop]
      | bad =>
          have hbad : r.peek = .bad := peek_eq_bad_iff.mpr hl
          refine ⟨{ bad := true, reader := r }, ?_, ?_, ?_⟩
          · simp [popAll, hbad]
          · rw [frames_bad hl]
          · intro h; cases h
      | more =>
          have hmsg : r.peek ≠ .message := by
            intro hm
            obtain ⟨n, v, hitem⟩ := peek_eq_message_iff.mp hm
            rw [hl] at hitem
            cases hitem
          have hbad : r.peek ≠ .bad := by
            intro hb
            rw [peek_eq_bad_iff, hl] at hb
            cases hb
          refine ⟨{ bad := false, reader := r }, ?_, ?_, ?_⟩
          · simp [popAll, hmsg, hbad]
          · rw [frames_more hl]
          · intro _
            exact (List.drop_zero ..).symm

/-- What `feed` takes: a piece of the data, empty only when there is no room. -/
theorem feed_spec (r : WlReader maxBody) (data : Bytes) :
    (r.feed data).1.buf ++ data.drop (r.feed data).2 = r.buf ++ data ∧
      (data ≠ [] → r.buf.length < WL_PREFIX_MAX + maxBody →
        (data.drop (r.feed data).2).length < data.length) := by
  constructor
  · show (r.buf ++ data.take (r.room data.length)) ++ data.drop (r.room data.length) = _
    rw [List.append_assoc, List.take_append_drop]
  · intro hne hroom
    have hpos : 0 < data.length := List.length_pos_of_ne_nil hne
    show (data.drop (r.room data.length)).length < _
    rw [List.length_drop]
    unfold room
    omega

/-- A reader that waits for more has room. -/
theorem room_of_waiting {r : WlReader maxBody} (h : (frame maxBody).look r.buf = .more) :
    r.buf.length < WL_PREFIX_MAX + maxBody := by
  by_contra hfull
  exact look_full (Nat.le_of_not_lt hfull) h

/-- **The loop of `WallLinkCore::bytes` ends and reads on with the chunk.** -/
theorem take_spec :
    ∀ (fuel : Nat) (r : WlReader maxBody) (data : Bytes),
      (frame maxBody).look r.buf = .more → data.length < fuel →
      ∃ t, take fuel r data = some t ∧ Reads (r.buf ++ data) t
  | 0, _, _, _, h => by omega
  | fuel + 1, r, data, hwait, h => by
      obtain ⟨hcut, hless⟩ := feed_spec r data
      obtain ⟨t, ht, hreads⟩ := popAll_spec _ (r.feed data).1 (Nat.lt_succ_self _)
      cases hbad : t.bad with
      | true =>
          refine ⟨t, by simp [take, ht, hbad], ?_⟩
          rw [← hcut]
          exact hreads.bad_append _ hbad
      | false =>
          by_cases hrest : data.drop (r.feed data).2 = []
          · refine ⟨t, by simp [take, ht, hrest], ?_⟩
            rw [← hcut, hrest, List.append_nil]
            exact hreads
          · have hne : data ≠ [] := by
              intro hnil
              rw [hnil, List.drop_nil] at hrest
              exact hrest rfl
            have hlt := hless hne (room_of_waiting hwait)
            obtain ⟨u, hu, hureads⟩ :=
              take_spec fuel t.reader (data.drop (r.feed data).2) (hreads.waiting hbad) (by omega)
            refine ⟨t.andThen u, by simp [take, ht, hbad, hrest, hu], ?_⟩
            rw [← hcut]
            exact hreads.andThen hbad hureads

/-- **The loop of `linkLoopTick` ends and reads on with the chunk.** -/
theorem takeTick_spec :
    ∀ (fuel : Nat) (r : WlReader maxBody) (data : Bytes),
      (frame maxBody).look r.buf = .more → data.length < fuel →
      ∃ t, takeTick fuel r data = some t ∧ Reads (r.buf ++ data) t
  | 0, _, _, _, h => by omega
  | fuel + 1, r, data, hwait, h => by
      by_cases hne : data = []
      · refine ⟨{ reader := r }, by simp [takeTick, hne], ?_, ?_⟩
        · rw [hne, List.append_nil, frames_more hwait]
        · intro _
          rw [hne, List.append_nil]
          exact (List.drop_zero ..).symm
      · obtain ⟨hcut, hless⟩ := feed_spec r data
        obtain ⟨t, ht, hreads⟩ := popAll_spec _ (r.feed data).1 (Nat.lt_succ_self _)
        cases hbad : t.bad with
        | true =>
            refine ⟨t, by simp [takeTick, hne, ht, hbad], ?_⟩
            rw [← hcut]
            exact hreads.bad_append _ hbad
        | false =>
            have hlt := hless hne (room_of_waiting hwait)
            obtain ⟨u, hu, hureads⟩ :=
              takeTick_spec fuel t.reader (data.drop (r.feed data).2) (hreads.waiting hbad)
                (by omega)
            refine ⟨t.andThen u, by simp [takeTick, hne, ht, hbad, hu], ?_⟩
            rw [← hcut]
            exact hreads.andThen hbad hureads

/-- **Any cuts of a stream read as the stream**, for a loop that reads on with
every chunk. -/
theorem takeChunks_spec {loop : WlReader maxBody → Bytes → Option (Taken maxBody)}
    (hloop : ∀ (r : WlReader maxBody) (data : Bytes), (frame maxBody).look r.buf = .more →
      ∃ t, loop r data = some t ∧ Reads (r.buf ++ data) t) :
    ∀ (chunks : List Bytes) (r : WlReader maxBody), (frame maxBody).look r.buf = .more →
      ∃ t, takeChunks loop r chunks = some t ∧ Reads (r.buf ++ chunks.flatten) t
  | [], r, hwait => by
      refine ⟨{ reader := r }, rfl, ?_, ?_⟩
      · rw [List.flatten_nil, List.append_nil, frames_more hwait]
      · intro _
        rw [List.flatten_nil, List.append_nil]
        exact (List.drop_zero ..).symm
  | chunk :: chunks, r, hwait => by
      obtain ⟨t, ht, hreads⟩ := hloop r chunk hwait
      rw [List.flatten_cons, ← List.append_assoc]
      cases hbad : t.bad with
      | true => exact ⟨t, by simp [takeChunks, ht, hbad], hreads.bad_append _ hbad⟩
      | false =>
          obtain ⟨u, hu, hureads⟩ := takeChunks_spec hloop chunks t.reader (hreads.waiting hbad)
          exact ⟨t.andThen u, by simp [takeChunks, ht, hbad, hu], hreads.andThen hbad hureads⟩

/-! ## §5. What is written is read back. -/

/-- A message as nanopb writes it: the minimal varint of the length, the body. -/
def delimited (body : Bytes) : Bytes := varint body.length ++ body

/-- A minimal varint that fits the prefix is scanned back. -/
theorem scanPrefix_varint (tail : Bytes) :
    ∀ (n i len : Nat), len < 2 ^ (7 * i) → i + (varint n).length ≤ WL_PREFIX_MAX →
      scanPrefix i len (varint n ++ tail) = some (len + 2 ^ (7 * i) * n, i + (varint n).length) := by
  intro n
  induction n using varint.induct with
  | case1 n hn =>
      intro i len hlen hfit
      have hpos := varint_length_pos n
      have hbyte : (UInt8.ofNat n).toNat = n := by
        rw [UInt8.toNat_ofNat']; omega
      have hor : len ||| n <<< (7 * i) = len + 2 ^ (7 * i) * n := by
        rw [Nat.or_comm, Nat.shiftLeft_eq, Nat.mul_comm, ← Nat.two_pow_add_eq_or_of_lt hlen,
            Nat.add_comm]
      rw [varint_of_lt hn, List.cons_append, scanPrefix, if_pos (by omega), digit_bits, hbyte,
          Nat.mod_eq_of_lt hn, if_pos ((digit_last_iff _).mpr (by rw [hbyte]; exact hn)), hor]
      rfl
  | case2 n hn ih =>
      intro i len hlen hfit
      have hbyte : (UInt8.ofNat (n % 128 + 128)).toNat = n % 128 + 128 := by
        rw [UInt8.toNat_ofNat']; omega
      have hdigit : (n % 128 + 128) % 128 = n % 128 := by omega
      have hor : len ||| (n % 128) <<< (7 * i) = len + 2 ^ (7 * i) * (n % 128) := by
        rw [Nat.or_comm, Nat.shiftLeft_eq, Nat.mul_comm, ← Nat.two_pow_add_eq_or_of_lt hlen,
            Nat.add_comm]
      have hnext : len + 2 ^ (7 * i) * (n % 128) < 2 ^ (7 * (i + 1)) := by
        have hmod : n % 128 ≤ 127 := by omega
        calc len + 2 ^ (7 * i) * (n % 128) < 2 ^ (7 * i) + 2 ^ (7 * i) * 127 := by
              have := Nat.mul_le_mul_left (2 ^ (7 * i)) hmod
              omega
          _ = 2 ^ (7 * (i + 1)) := by rw [Nat.mul_add, Nat.pow_add]; ring
      rw [varint_of_ge hn, List.length_cons] at hfit
      rw [varint_of_ge hn, List.cons_append, scanPrefix, if_pos (by omega), digit_bits, hbyte,
          hdigit, if_neg (by rw [digit_last_iff, hbyte]; omega), hor,
          ih (i + 1) _ hnext (by omega), List.length_cons]
      have hsplit : n % 128 + 128 * (n / 128) = n := Nat.mod_add_div n 128
      have hpow : 2 ^ (7 * (i + 1)) = 2 ^ (7 * i) * 128 := by
        rw [Nat.mul_add, Nat.pow_add]
      congr 1
      refine Prod.ext ?_ (by show i + 1 + _ = i + (_ + 1); omega)
      show len + 2 ^ (7 * i) * (n % 128) + 2 ^ (7 * (i + 1)) * (n / 128) = len + 2 ^ (7 * i) * n
      rw [hpow, Nat.mul_assoc, Nat.add_assoc, ← Nat.mul_add, hsplit]

/-- A body of at most `maxBody` bytes, written with its length, is one message. -/
theorem look_delimited (hsize : maxBody < 2 ^ 21) {body : Bytes} (hbody : body.length ≤ maxBody) :
    (frame maxBody).look (delimited body) = .item (delimited body).length body := by
  have hfit : (varint body.length).length ≤ WL_PREFIX_MAX :=
    varint_length_le (by omega : body.length < 128 ^ (2 + 1))
  have hscan := scanPrefix_varint body body.length 0 0 (by decide) (by omega)
  simp only [Nat.mul_zero, Nat.pow_zero, Nat.one_mul, Nat.zero_add] at hscan
  refine look_item_iff.mpr ⟨body.length, (varint body.length).length, hscan, hbody, ?_, ?_, ?_⟩
  · rw [delimited, List.length_append]
  · rw [delimited, List.length_append]
  · rw [delimited, List.drop_left, List.take_length]

/-! ## §6. Framing of whole streams. -/

/-- The two loops of the source, with fuel for every byte of the chunk. -/
def bytesLoop (r : WlReader maxBody) (data : Bytes) : Option (Taken maxBody) :=
  take (data.length + 1) r data

def tickLoop (r : WlReader maxBody) (data : Bytes) : Option (Taken maxBody) :=
  takeTick (data.length + 1) r data

/-- **The framing of a stream is independent of how its bytes are cut.**  For
any chunks both loops end, and the bodies they pop, whether they end on bytes
that are no message and where, are those of the uncut stream.  A stream of
written bodies gives back exactly these bodies, for a reader whose longest
body has a length that fits the prefix. -/
theorem stream_framing :
    (∀ chunks : List Bytes, ∃ t u : Taken maxBody,
      takeChunks bytesLoop {} chunks = some t ∧ takeChunks tickLoop {} chunks = some u ∧
      frames (frame maxBody) chunks.flatten =
        { items := t.bodies, bad := t.bad, used := t.popped } ∧
      frames (frame maxBody) chunks.flatten =
        { items := u.bodies, bad := u.bad, used := u.popped }) ∧
    (maxBody < 2 ^ 21 → ∀ bodies chunks : List Bytes,
      (∀ body ∈ bodies, body.length ≤ maxBody) → chunks.flatten = bodies.flatMap delimited →
      ∃ t u : Taken maxBody,
        takeChunks bytesLoop {} chunks = some t ∧ takeChunks tickLoop {} chunks = some u ∧
        t.bodies = bodies ∧ t.bad = false ∧ u.bodies = bodies ∧ u.bad = false) := by
  have hnil : (frame maxBody).look [] = .more := rfl
  have hbytes : ∀ (r : WlReader maxBody) (data : Bytes), (frame maxBody).look r.buf = .more →
      ∃ t, bytesLoop r data = some t ∧ Reads (r.buf ++ data) t :=
    fun r data hwait => take_spec _ r data hwait (Nat.lt_succ_self _)
  have htick : ∀ (r : WlReader maxBody) (data : Bytes), (frame maxBody).look r.buf = .more →
      ∃ t, tickLoop r data = some t ∧ Reads (r.buf ++ data) t :=
    fun r data hwait => takeTick_spec _ r data hwait (Nat.lt_succ_self _)
  have hwhole : ∀ chunks : List Bytes, ∃ t u : Taken maxBody,
      takeChunks bytesLoop {} chunks = some t ∧ takeChunks tickLoop {} chunks = some u ∧
      Reads chunks.flatten t ∧ Reads chunks.flatten u := by
    intro chunks
    obtain ⟨t, ht, htreads⟩ := takeChunks_spec hbytes chunks {} hnil
    obtain ⟨u, hu, hureads⟩ := takeChunks_spec htick chunks {} hnil
    exact ⟨t, u, ht, hu, htreads, hureads⟩
  constructor
  · intro chunks
    obtain ⟨t, u, ht, hu, htreads, hureads⟩ := hwhole chunks
    exact ⟨t, u, ht, hu, htreads.frames_eq, hureads.frames_eq⟩
  · intro hsize bodies chunks hbodies hcut
    obtain ⟨t, u, ht, hu, htreads, hureads⟩ := hwhole chunks
    have hitems : frames (frame maxBody) chunks.flatten =
        { items := bodies, bad := false, used := (bodies.flatMap delimited).length } := by
      rw [hcut]
      exact frames_items (fun body hb => look_delimited hsize (hbodies body hb)) hnil
    have hteq := htreads.frames_eq.symm.trans hitems
    have hueq := hureads.frames_eq.symm.trans hitems
    simp only [Frames.mk.injEq] at hteq hueq
    exact ⟨t, u, ht, hu, hteq.1, hteq.2.1, hueq.1, hueq.2.1⟩

/-- An empty body and one of three bytes, cut inside the second prefix and
inside the second body. -/
theorem stream_framing_two_bodies :
    ∃ t u : Taken 512,
      takeChunks bytesLoop {} [[0], [3, 7], [8, 9]] = some t ∧
      takeChunks tickLoop {} [[0], [3, 7], [8, 9]] = some u ∧
      t.bodies = [[], [7, 8, 9]] ∧ t.bad = false ∧ u.bodies = [[], [7, 8, 9]] ∧ u.bad = false :=
  stream_framing.2 (by decide) [[], [7, 8, 9]] _ (by decide)
    (by simp [delimited, varint_of_lt])

end WlReader

end SplitFlap
