import Mathlib.Algebra.Order.Floor.Ring
import Mathlib.Data.List.Dedup
import Mathlib.Data.List.Induction
import Mathlib.Data.List.TakeWhile
import RaceFrame.Orm.Session
import RaceFrame.Schema.Rational

/-!
# Sliding windows in one process

The admission times of each key, oldest first, in a dictionary that forgets the
key used least recently when it grows too large. While no key is forgotten, every
window admits at most its limit, wherever it starts, and a hit is rejected only
when its window is full.
-/

namespace RaceFrame

/-- The arguments of `SlidingWindowLimiter.hit` and its reading of `time.monotonic()`. -/
structure WindowHit where
  bucket : Text
  key : Text
  limit : Nat
  windowSeconds : Nat
  now : ℚ
  deriving DecidableEq

/-- `entry_key`. -/
def WindowHit.entryKey (hit : WindowHit) : Text × Text := (hit.bucket, hit.key)

/-- `SlidingWindowLimiter._entries`, the key used least recently first. -/
abbrev WindowEntries := List ((Text × Text) × List ℚ)

/-- The timestamps of a key; a key that is not there has none. -/
def timestampsOf (entries : WindowEntries) (key : Text × Text) : List ℚ :=
  (entries.lookup key).getD []

namespace WindowHit

/-- The timestamps that are still in the window. -/
def live (entries : WindowEntries) (hit : WindowHit) : List ℚ :=
  (timestampsOf entries hit.entryKey).dropWhile (· ≤ hit.now - hit.windowSeconds)

/-- The entries with the timestamps of the key replaced and the key moved to the end. -/
def moveToEnd (entries : WindowEntries) (hit : WindowHit) (timestamps : List ℚ) : WindowEntries :=
  entries.filter (·.1 != hit.entryKey) ++ [(hit.entryKey, timestamps)]

/-- The seconds that a rejected caller has to wait. -/
def retryAfter (hit : WindowHit) (first : ℚ) : ℤ :=
  max 1 (truncate (hit.windowSeconds - (hit.now - first)) + 1)

/-- `SlidingWindowLimiter.hit`. -/
def serve (maxKeys : Nat) (entries : WindowEntries) (hit : WindowHit) :
    Except Raised (Option ℤ) × WindowEntries :=
  let timestamps := hit.live entries
  if hit.limit ≤ timestamps.length then
    match timestamps with
    | [] => (.error .indexError, hit.moveToEnd entries timestamps)
    | first :: _ => (.ok (some (hit.retryAfter first)), hit.moveToEnd entries timestamps)
  else
    let entries := hit.moveToEnd entries (timestamps ++ [hit.now])
    (.ok none, entries.drop (entries.length - maxKeys))

end WindowHit

/-- The entries after a run of hits. -/
def entriesAfter (maxKeys : Nat) (entries : WindowEntries) (hits : List WindowHit) :
    WindowEntries :=
  hits.foldl (fun entries hit => (hit.serve maxKeys entries).2) entries

/-- The times at which a run admits hits of a key. -/
def admittedTimes (maxKeys : Nat) (key : Text × Text) : WindowEntries → List WindowHit → List ℚ
  | _, [] => []
  | entries, hit :: hits =>
    (if hit.entryKey = key ∧ (hit.serve maxKeys entries).1.toOption = some none then [hit.now]
      else []) ++ admittedTimes maxKeys key (hit.serve maxKeys entries).2 hits

/-! ## One hit -/

private theorem lookup_filter_ne (entries : WindowEntries) (key other : Text × Text) :
    (entries.filter (·.1 != key)).lookup other =
      if other = key then none else entries.lookup other := by
  induction entries with
  | nil => rw [List.filter_nil, List.lookup_nil, ite_self]
  | cons entry entries ih =>
    by_cases hentry : entry.1 = key
    · rw [List.filter_cons_of_neg (by rw [hentry, bne_self_eq_false]; exact Bool.false_ne_true), ih]
      by_cases hother : other = key
      · rw [if_pos hother, if_pos hother]
      · have hne : (other == entry.1) = false := by
          rw [beq_eq_false_iff_ne, hentry]
          exact hother
        rw [if_neg hother, if_neg hother, List.lookup_cons, hne]
    · have hkept : (entry.1 != key) = true := bne_iff_ne.mpr hentry
      rw [List.filter_cons, if_pos hkept, List.lookup_cons, List.lookup_cons, ih]
      by_cases hother : other = entry.1
      · subst hother
        simp only [beq_self_eq_true, if_neg hentry]
      · rw [beq_false_of_ne hother]

theorem timestampsOf_moveToEnd (entries : WindowEntries) (hit : WindowHit) (timestamps : List ℚ)
    (key : Text × Text) :
    timestampsOf (hit.moveToEnd entries timestamps) key =
      if hit.entryKey = key then timestamps else timestampsOf entries key := by
  rw [timestampsOf, WindowHit.moveToEnd, List.lookup_append, lookup_filter_ne]
  by_cases hkey : hit.entryKey = key
  · rw [if_pos hkey.symm, if_pos hkey, hkey, Option.none_or, List.lookup_cons, beq_self_eq_true]
    rfl
  · have hne : (key == hit.entryKey) = false := beq_false_of_ne (Ne.symm hkey)
    rw [if_neg (Ne.symm hkey), if_neg hkey, List.lookup_cons, hne, List.lookup_nil, Option.or_none]
    rfl

/-- A key that is forgotten has no timestamps. -/
theorem timestampsOf_drop {entries : WindowEntries} (hnodup : (entries.map Prod.fst).Nodup)
    (n : Nat)
    (key : Text × Text) :
    timestampsOf (entries.drop n) key = timestampsOf entries key ∨
      timestampsOf (entries.drop n) key = [] := by
  have hsplit : entries.lookup key =
      ((entries.take n).lookup key).or ((entries.drop n).lookup key) := by
    rw [← List.lookup_append, List.take_append_drop]
  cases htake : (entries.take n).lookup key with
  | none =>
    left
    rw [timestampsOf, timestampsOf, hsplit, htake, Option.none_or]
  | some timestamps =>
    right
    have hnone : (entries.drop n).lookup key = none := by
      rw [List.lookup_eq_none_iff]
      intro entry hentry
      rw [bne_iff_ne]
      rintro rfl
      obtain ⟨before, after, hbefore, -⟩ := List.lookup_eq_some_iff.mp htake
      rw [← List.take_append_drop n entries, List.map_append] at hnodup
      have hfirst : entry.1 ∈ (entries.take n).map Prod.fst := by
        rw [hbefore]
        exact List.mem_map.mpr ⟨_, List.mem_append_right _ List.mem_cons_self, rfl⟩
      exact List.disjoint_of_nodup_append hnodup hfirst (List.mem_map_of_mem hentry)
    rw [timestampsOf, hnone]
    rfl

theorem nodup_moveToEnd {entries : WindowEntries} (hnodup : (entries.map Prod.fst).Nodup)
    (hit : WindowHit) (timestamps : List ℚ) :
    ((hit.moveToEnd entries timestamps).map Prod.fst).Nodup := by
  rw [WindowHit.moveToEnd, List.map_append, List.nodup_append]
  refine ⟨hnodup.sublist (List.filter_sublist.map Prod.fst), List.nodup_singleton _, ?_⟩
  intro key hkey other hother
  obtain ⟨entry, hentry, rfl⟩ := List.mem_map.mp hkey
  rw [List.mem_singleton.mp hother]
  exact bne_iff_ne.mp (List.mem_filter.mp hentry).2

namespace WindowHit

/-- A hit is rejected when its window is full, and admitted otherwise. -/
theorem serve_cases (maxKeys : Nat) (entries : WindowEntries) {hit : WindowHit}
    (hlimit : 1 ≤ hit.limit) :
    (hit.limit ≤ (hit.live entries).length ∧ ∃ first rest, hit.live entries = first :: rest ∧
      hit.serve maxKeys entries =
        (.ok (some (hit.retryAfter first)), hit.moveToEnd entries (first :: rest))) ∨
    ((hit.live entries).length < hit.limit ∧ ∃ n, hit.serve maxKeys entries =
        (.ok none, (hit.moveToEnd entries (hit.live entries ++ [hit.now])).drop n) ∧
      n = (hit.moveToEnd entries (hit.live entries ++ [hit.now])).length - maxKeys) := by
  by_cases hfull : hit.limit ≤ (hit.live entries).length
  · left
    refine ⟨hfull, ?_⟩
    cases hlive : hit.live entries with
    | nil =>
      rw [hlive, List.length_nil] at hfull
      omega
    | cons first rest =>
      refine ⟨first, rest, rfl, ?_⟩
      rw [hlive] at hfull
      simp only [serve, hlive, if_pos hfull]
  · right
    refine ⟨Nat.lt_of_not_le hfull, _, ?_, rfl⟩
    simp only [serve, if_neg hfull]

/-- Whatever its answer, a hit keeps the keys distinct. -/
theorem nodup_serve {maxKeys : Nat} {entries : WindowEntries} {hit : WindowHit}
    (hlimit : 1 ≤ hit.limit) (hnodup : (entries.map Prod.fst).Nodup) :
    ((hit.serve maxKeys entries).2.map Prod.fst).Nodup := by
  rcases hit.serve_cases maxKeys entries hlimit with ⟨-, first, rest, -, hserve⟩ | ⟨-, n, hserve, -⟩
  · rw [hserve]
    exact nodup_moveToEnd hnodup hit _
  · rw [hserve, List.map_drop]
    exact (nodup_moveToEnd hnodup hit _).sublist (List.drop_sublist _ _)

/-- A hit of another key leaves the timestamps of a key or forgets them. -/
theorem timestampsOf_serve_of_ne {maxKeys : Nat} {entries : WindowEntries} {hit : WindowHit}
    (hlimit : 1 ≤ hit.limit) (hnodup : (entries.map Prod.fst).Nodup) {key : Text × Text}
    (hkey : hit.entryKey ≠ key) :
    timestampsOf (hit.serve maxKeys entries).2 key = timestampsOf entries key ∨
      timestampsOf (hit.serve maxKeys entries).2 key = [] := by
  rcases hit.serve_cases maxKeys entries hlimit with ⟨-, first, rest, -, hserve⟩ | ⟨-, n, hserve, -⟩
  · left
    rw [hserve, timestampsOf_moveToEnd, if_neg hkey]
  · rw [hserve]
    have hdrop :=
      timestampsOf_drop (nodup_moveToEnd hnodup hit (hit.live entries ++ [hit.now])) n key
    rwa [timestampsOf_moveToEnd, if_neg hkey] at hdrop

theorem length_live_le (entries : WindowEntries) (hit : WindowHit) :
    (hit.live entries).length ≤ (timestampsOf entries hit.entryKey).length :=
  (List.dropWhile_sublist _).length_le

/-- No key ever holds more timestamps than its limit. -/
theorem length_timestampsOf_serve {maxKeys : Nat} {entries : WindowEntries} {hit : WindowHit}
    (hlimit : 1 ≤ hit.limit) (hnodup : (entries.map Prod.fst).Nodup) {key : Text × Text}
    {limit : Nat} (hkey : hit.entryKey = key → hit.limit = limit)
    (hlength : (timestampsOf entries key).length ≤ limit) :
    (timestampsOf (hit.serve maxKeys entries).2 key).length ≤ limit := by
  by_cases hown : hit.entryKey = key
  · subst hown
    rcases hit.serve_cases maxKeys entries hlimit with
      ⟨-, first, rest, hlive, hserve⟩ | ⟨hroom, n, hserve, -⟩
    · rw [hserve, timestampsOf_moveToEnd, if_pos rfl, ← hlive]
      exact (hit.length_live_le entries).trans hlength
    · rw [hserve]
      have hdrop := timestampsOf_drop (nodup_moveToEnd hnodup hit (hit.live entries ++ [hit.now])) n
        hit.entryKey
      rw [timestampsOf_moveToEnd, if_pos rfl] at hdrop
      rcases hdrop with hdrop | hdrop
      · rw [hdrop, List.length_append, List.length_singleton, ← hkey rfl]
        exact hroom
      · rw [hdrop]
        exact Nat.zero_le _
  · rcases hit.timestampsOf_serve_of_ne hlimit hnodup hown with hsame | hnone
    · rw [hsame]
      exact hlength
    · rw [hnone]
      exact Nat.zero_le _

/-- An admitted hit leaves at most `max_keys` keys. -/
theorem length_serve_of_admitted {maxKeys : Nat} {entries : WindowEntries} {hit : WindowHit}
    (hlimit : 1 ≤ hit.limit) (hadmitted : (hit.serve maxKeys entries).1 = .ok none) :
    (hit.serve maxKeys entries).2.length ≤ maxKeys := by
  rcases hit.serve_cases maxKeys entries hlimit with
    ⟨-, first, rest, -, hserve⟩ | ⟨-, n, hserve, hn⟩
  · rw [hserve] at hadmitted
    cases hadmitted
  · rw [hserve, List.length_drop, hn]
    omega

end WindowHit

/-! ## The windows of a run -/

/-- Together with the hits admitted before it in its own window, no hit exceeds the limit. -/
def Spaced (limit : Nat) (window : ℚ) (times : List ℚ) : Prop :=
  ∀ pre time post, times = pre ++ time :: post →
    (pre.countP fun earlier => time - window < earlier) + 1 ≤ limit

theorem Spaced.concat {limit : Nat} {window time : ℚ} {times : List ℚ}
    (h : Spaced limit window times)
    (hroom : (times.countP fun earlier => time - window < earlier) + 1 ≤ limit) :
    Spaced limit window (times ++ [time]) := by
  intro pre other post hsplit
  rcases List.eq_nil_or_concat post with rfl | ⟨post', last, rfl⟩
  · obtain ⟨rfl, hlast⟩ := List.append_inj' hsplit rfl
    rw [← List.head_eq_of_cons_eq hlast]
    exact hroom
  · rw [List.concat_eq_append, ← List.cons_append, ← List.append_assoc] at hsplit
    obtain ⟨hfront, -⟩ := List.append_inj' hsplit rfl
    exact h pre other post' hfront

/-- Wherever a window ends, at most its limit is admitted in it. -/
theorem Spaced.countP_le {limit : Nat} {window : ℚ} {times : List ℚ}
    (h : Spaced limit window times) (t : ℚ) :
    (times.countP fun time => t - window < time ∧ time ≤ t) ≤ limit := by
  induction times using List.reverseRecOn with
  | nil => exact Nat.zero_le _
  | append_singleton times time ih =>
    have hfront : Spaced limit window times := by
      intro pre other post hsplit
      refine h pre other (post ++ [time]) ?_
      rw [hsplit, List.append_assoc, List.cons_append]
    rw [List.countP_append, List.countP_singleton]
    by_cases hin : t - window < time ∧ time ≤ t
    · have hroom := h times time [] rfl
      have hwider : (times.countP fun earlier => t - window < earlier ∧ earlier ≤ t) ≤
          times.countP fun earlier => time - window < earlier := by
        apply List.countP_mono_left
        intro earlier _ hearlier
        simp only [decide_eq_true_eq] at hearlier ⊢
        linarith [hearlier.1, hin.2]
      rw [if_pos (decide_eq_true hin)]
      omega
    · rw [if_neg (by simpa only [decide_eq_true_eq] using hin), Nat.add_zero]
      exact ih hfront

/-- What a key holds after a run in which no key was forgotten: the admitted times, apart from the
ones that had left the window at the last hit. -/
structure HoldsWindow (limit : Nat) (window : ℚ) (admitted stored : List ℚ) (last : ℚ) : Prop where
  ordered : admitted.Pairwise (· ≤ ·)
  past : ∀ time ∈ admitted, time ≤ last
  spaced : Spaced limit window admitted
  expired : ∃ dropped, admitted = dropped ++ stored ∧ ∀ time ∈ dropped, time ≤ last - window

namespace HoldsWindow

variable {limit : Nat} {window last now : ℚ} {admitted stored : List ℚ}

theorem later (h : HoldsWindow limit window admitted stored last) (hnow : last ≤ now) :
    HoldsWindow limit window admitted stored now where
  ordered := h.ordered
  past time htime := (h.past time htime).trans hnow
  spaced := h.spaced
  expired := by
    obtain ⟨dropped, hadmitted, hdropped⟩ := h.expired
    exact ⟨dropped, hadmitted, fun time htime => by linarith [hdropped time htime]⟩

/-- Dropping what has left the window keeps the rest. -/
theorem dropWhile (h : HoldsWindow limit window admitted stored last) :
    HoldsWindow limit window admitted (stored.dropWhile (· ≤ last - window)) last where
  ordered := h.ordered
  past := h.past
  spaced := h.spaced
  expired := by
    obtain ⟨dropped, hadmitted, hdropped⟩ := h.expired
    refine ⟨dropped ++ stored.takeWhile (· ≤ last - window), ?_, ?_⟩
    · rw [List.append_assoc, List.takeWhile_append_dropWhile, hadmitted]
    · intro time htime
      rcases List.mem_append.mp htime with htime | htime
      · exact hdropped time htime
      · have hleft := List.mem_takeWhile_imp htime
        exact of_decide_eq_true hleft

/-- What is left is what was admitted in the window. -/
theorem countP_eq (h : HoldsWindow limit window admitted stored last) :
    (admitted.countP fun time => last - window < time ∧ time ≤ last) =
      (stored.dropWhile (· ≤ last - window)).length := by
  obtain ⟨dropped, hadmitted, hdropped⟩ := h.dropWhile.expired
  have hsorted := h.ordered
  rw [hadmitted, List.pairwise_append] at hsorted
  have hlive : ∀ time ∈ stored.dropWhile (· ≤ last - window), last - window < time := by
    intro time htime
    cases hrest : stored.dropWhile (· ≤ last - window) with
    | nil =>
      rw [hrest] at htime
      cases htime
    | cons first rest =>
      have hfirst : last - window < first := by
        have hhead := List.head?_dropWhile_not (· ≤ last - window) stored
        rw [hrest] at hhead
        simpa using hhead
      have hpairs := hsorted.2.1
      rw [hrest] at htime hpairs
      rcases List.mem_cons.mp htime with rfl | htime
      · exact hfirst
      · exact hfirst.trans_le ((List.pairwise_cons.mp hpairs).1 time htime)
  rw [hadmitted, List.countP_append, List.countP_eq_zero.mpr, Nat.zero_add, List.countP_eq_length]
  · intro time htime
    have hmem : time ∈ admitted := by
      rw [hadmitted]
      exact List.mem_append_right _ htime
    exact decide_eq_true ⟨hlive time htime, h.past time hmem⟩
  · intro time htime hin
    exact absurd (hdropped time htime) (not_le_of_gt (of_decide_eq_true hin).1)

/-- An admitted hit joins the window. -/
theorem extend (h : HoldsWindow limit window admitted stored last)
    (hroom : (stored.dropWhile (· ≤ last - window)).length < limit) :
    HoldsWindow limit window (admitted ++ [last])
      (stored.dropWhile (· ≤ last - window) ++ [last]) last where
  ordered := by
    rw [List.pairwise_append]
    refine ⟨h.ordered, List.pairwise_singleton _ _, ?_⟩
    intro time htime other hother
    rw [List.mem_singleton.mp hother]
    exact h.past time htime
  past := by
    intro time htime
    rcases List.mem_append.mp htime with htime | htime
    · exact h.past time htime
    · rw [List.mem_singleton.mp htime]
  spaced := by
    apply h.spaced.concat
    have hcount := h.countP_eq
    have hsame : (admitted.countP fun earlier => last - window < earlier) =
        admitted.countP fun time => last - window < time ∧ time ≤ last := by
      apply List.countP_congr
      intro time htime
      simp only [decide_eq_true_eq]
      exact ⟨fun hlive => ⟨hlive, h.past time htime⟩, fun hlive => hlive.1⟩
    omega
  expired := by
    obtain ⟨dropped, hadmitted, hdropped⟩ := h.dropWhile.expired
    refine ⟨dropped, ?_, hdropped⟩
    rw [← List.append_assoc, ← hadmitted]

end HoldsWindow

/-! ## Runs -/

section Runs

variable (maxKeys : Nat)

theorem entriesAfter_append (entries : WindowEntries) (hits hits' : List WindowHit) :
    entriesAfter maxKeys entries (hits ++ hits') =
      entriesAfter maxKeys (entriesAfter maxKeys entries hits) hits' := List.foldl_append

theorem admittedTimes_append (key : Text × Text) (entries : WindowEntries)
    (hits hits' : List WindowHit) :
    admittedTimes maxKeys key entries (hits ++ hits') =
      admittedTimes maxKeys key entries hits ++
        admittedTimes maxKeys key (entriesAfter maxKeys entries hits) hits' := by
  induction hits generalizing entries with
  | nil => rfl
  | cons hit hits ih =>
    rw [List.cons_append, admittedTimes, admittedTimes, ih, List.append_assoc]
    rfl

theorem nodup_entriesAfter {entries : WindowEntries} (hnodup : (entries.map Prod.fst).Nodup)
    {hits : List WindowHit} (hlimits : ∀ hit ∈ hits, 1 ≤ hit.limit) :
    ((entriesAfter maxKeys entries hits).map Prod.fst).Nodup := by
  induction hits generalizing entries with
  | nil => exact hnodup
  | cons hit hits ih =>
    exact ih (hit.nodup_serve (hlimits hit List.mem_cons_self) hnodup)
      fun later hlater => hlimits later (List.mem_cons_of_mem hit hlater)

/-- No key ever holds more timestamps than its limit. -/
theorem length_timestampsOf_entriesAfter {entries : WindowEntries}
    (hnodup : (entries.map Prod.fst).Nodup) {hits : List WindowHit}
    (hlimits : ∀ hit ∈ hits, 1 ≤ hit.limit) {key : Text × Text} {limit : Nat}
    (hfixed : ∀ hit ∈ hits, hit.entryKey = key → hit.limit = limit)
    (hlength : (timestampsOf entries key).length ≤ limit) :
    (timestampsOf (entriesAfter maxKeys entries hits) key).length ≤ limit := by
  induction hits generalizing entries with
  | nil => exact hlength
  | cons hit hits ih =>
    have hhit := hlimits hit List.mem_cons_self
    apply ih (hit.nodup_serve hhit hnodup)
    · exact fun later hlater => hlimits later (List.mem_cons_of_mem hit hlater)
    · exact fun later hlater => hfixed later (List.mem_cons_of_mem hit hlater)
    · exact hit.length_timestampsOf_serve hhit hnodup (hfixed hit List.mem_cons_self) hlength

/-- Hits of other keys leave the timestamps of a key or forget them. -/
theorem timestampsOf_entriesAfter_of_ne {entries : WindowEntries}
    (hnodup : (entries.map Prod.fst).Nodup) {hits : List WindowHit}
    (hlimits : ∀ hit ∈ hits, 1 ≤ hit.limit) {key : Text × Text}
    (hother : ∀ hit ∈ hits, hit.entryKey ≠ key) :
    timestampsOf (entriesAfter maxKeys entries hits) key = timestampsOf entries key ∨
      timestampsOf (entriesAfter maxKeys entries hits) key = [] := by
  induction hits generalizing entries with
  | nil => exact Or.inl rfl
  | cons hit hits ih =>
    have hhit := hlimits hit List.mem_cons_self
    have hserved : ((hit.serve maxKeys entries).2.map Prod.fst).Nodup := hit.nodup_serve hhit hnodup
    have hrest := ih hserved (fun later hlater => hlimits later (List.mem_cons_of_mem hit hlater))
      fun later hlater => hother later (List.mem_cons_of_mem hit hlater)
    change timestampsOf (entriesAfter maxKeys (hit.serve maxKeys entries).2 hits) key = _ ∨
      timestampsOf (entriesAfter maxKeys (hit.serve maxKeys entries).2 hits) key = []
    rcases hrest with hsame | hnone
    · rw [hsame]
      exact hit.timestampsOf_serve_of_ne hhit hnodup (hother hit List.mem_cons_self)
    · exact Or.inr hnone

theorem mem_keys_serve {entries : WindowEntries} {hit : WindowHit} (hlimit : 1 ≤ hit.limit)
    {key : Text × Text} (hkey : key ∈ (hit.serve maxKeys entries).2.map Prod.fst) :
    key ∈ entries.map Prod.fst ∨ key = hit.entryKey := by
  have hmove : ∀ timestamps, key ∈ (hit.moveToEnd entries timestamps).map Prod.fst →
      key ∈ entries.map Prod.fst ∨ key = hit.entryKey := by
    intro timestamps hmem
    rw [WindowHit.moveToEnd, List.map_append] at hmem
    rcases List.mem_append.mp hmem with hmem | hmem
    · exact Or.inl ((List.filter_sublist.map Prod.fst).subset hmem)
    · exact Or.inr (List.mem_singleton.mp hmem)
  rcases hit.serve_cases maxKeys entries hlimit with ⟨-, first, rest, -, hserve⟩ | ⟨-, n, hserve, -⟩
  · rw [hserve] at hkey
    exact hmove _ hkey
  · rw [hserve, List.map_drop] at hkey
    exact hmove _ (List.mem_of_mem_drop hkey)

/-- The keys that are tracked have been used. -/
theorem keys_entriesAfter_subset {hits : List WindowHit} (hlimits : ∀ hit ∈ hits, 1 ≤ hit.limit) :
    ∀ key ∈ (entriesAfter maxKeys [] hits).map Prod.fst, key ∈ hits.map WindowHit.entryKey := by
  induction hits using List.reverseRecOn with
  | nil => exact fun key hkey => hkey
  | append_singleton hits hit ih =>
    intro key hkey
    rw [entriesAfter_append] at hkey
    rw [List.map_append, List.mem_append]
    have hlimit := hlimits hit (List.mem_append_right _ List.mem_cons_self)
    rcases mem_keys_serve maxKeys hlimit hkey with
      hkey | rfl
    · exact Or.inl (ih (fun earlier h => hlimits earlier (List.mem_append_left _ h)) key hkey)
    · exact Or.inr List.mem_cons_self

/-- While no more keys are used than are tracked, none is forgotten. -/
theorem length_moveToEnd_le {hits : List WindowHit} {hit : WindowHit}
    (hlimits : ∀ earlier ∈ hits, 1 ≤ earlier.limit)
    (hfew : ((hits ++ [hit]).map WindowHit.entryKey).dedup.length ≤ maxKeys) (timestamps : List ℚ) :
    (hit.moveToEnd (entriesAfter maxKeys [] hits) timestamps).length ≤ maxKeys := by
  have hempty : (([] : WindowEntries).map Prod.fst).Nodup := List.nodup_nil
  have hnodup := nodup_moveToEnd (nodup_entriesAfter maxKeys hempty hlimits) hit timestamps
  have hsubset : (hit.moveToEnd (entriesAfter maxKeys [] hits) timestamps).map Prod.fst ⊆
      ((hits ++ [hit]).map WindowHit.entryKey).dedup := by
    intro key hkey
    rw [List.mem_dedup, List.map_append, List.mem_append]
    rw [WindowHit.moveToEnd, List.map_append] at hkey
    rcases List.mem_append.mp hkey with hkey | hkey
    · exact Or.inl (keys_entriesAfter_subset maxKeys hlimits key
        ((List.filter_sublist.map Prod.fst).subset hkey))
    · exact Or.inr hkey
  have hlength := (List.subperm_of_subset hnodup hsubset).length_le
  rw [List.length_map] at hlength
  exact hlength.trans hfew

/-- Every hit of a bucket comes with the limit and the window of the bucket. -/
structure FixedRates (limitOf windowOf : Text → Nat) (hits : List WindowHit) : Prop where
  positive : ∀ bucket, 1 ≤ limitOf bucket
  limit : ∀ hit ∈ hits, hit.limit = limitOf hit.bucket
  window : ∀ hit ∈ hits, hit.windowSeconds = windowOf hit.bucket

variable {limitOf windowOf : Text → Nat}

theorem FixedRates.limits {hits : List WindowHit} (h : FixedRates limitOf windowOf hits) :
    ∀ hit ∈ hits, 1 ≤ hit.limit := by
  intro hit hhit
  rw [h.limit hit hhit]
  exact h.positive hit.bucket

theorem FixedRates.mono {hits hits' : List WindowHit} (h : FixedRates limitOf windowOf hits)
    (hsubset : hits' ⊆ hits) : FixedRates limitOf windowOf hits' where
  positive := h.positive
  limit hit hhit := h.limit hit (hsubset hhit)
  window hit hhit := h.window hit (hsubset hhit)

private theorem dedup_prefix_le {hits later : List WindowHit} :
    (hits.map WindowHit.entryKey).dedup.length ≤
      ((hits ++ later).map WindowHit.entryKey).dedup.length := by
  refine (List.subperm_of_subset (List.nodup_dedup _) ?_).length_le
  intro key hkey
  rw [List.mem_dedup] at hkey ⊢
  rw [List.map_append]
  exact List.mem_append_left _ hkey

/-- While no key is forgotten, a hit changes the timestamps of its own key only. -/
theorem timestampsOf_serve_of_few {hits : List WindowHit} {hit : WindowHit}
    (hlimits : ∀ earlier ∈ hits ++ [hit], 1 ≤ earlier.limit)
    (hfew : ((hits ++ [hit]).map WindowHit.entryKey).dedup.length ≤ maxKeys) (key : Text × Text) :
    timestampsOf (hit.serve maxKeys (entriesAfter maxKeys [] hits)).2 key =
      if hit.entryKey = key then
        if hit.limit ≤ (hit.live (entriesAfter maxKeys [] hits)).length then
          hit.live (entriesAfter maxKeys [] hits)
        else hit.live (entriesAfter maxKeys [] hits) ++ [hit.now]
      else timestampsOf (entriesAfter maxKeys [] hits) key := by
  have hlimit := hlimits hit (List.mem_append_right _ List.mem_cons_self)
  rcases hit.serve_cases maxKeys (entriesAfter maxKeys [] hits) hlimit with
    ⟨hfull, first, rest, hlive, hserve⟩ | ⟨hroom, n, hserve, hn⟩
  · rw [hserve, timestampsOf_moveToEnd, if_pos hfull, hlive]
  · have hlength := length_moveToEnd_le maxKeys
      (fun earlier hearlier => hlimits earlier (List.mem_append_left _ hearlier)) hfew
      (hit.live (entriesAfter maxKeys [] hits) ++ [hit.now])
    have hzero : n = 0 := by omega
    rw [hserve, hzero, List.drop_zero, timestampsOf_moveToEnd, if_neg (Nat.not_le.mpr hroom)]

theorem admittedTimes_concat (key : Text × Text) (hits : List WindowHit) (hit : WindowHit)
    (hlimit : 1 ≤ hit.limit) :
    admittedTimes maxKeys key [] (hits ++ [hit]) = admittedTimes maxKeys key [] hits ++
      if hit.entryKey = key ∧ (hit.live (entriesAfter maxKeys [] hits)).length < hit.limit
        then [hit.now] else [] := by
  rw [admittedTimes_append, admittedTimes, admittedTimes, List.append_nil]
  congr 1
  apply if_congr _ rfl rfl
  apply and_congr_right
  intro _
  rcases hit.serve_cases maxKeys (entriesAfter maxKeys [] hits) hlimit with
    ⟨hfull, first, rest, -, hserve⟩ | ⟨hroom, n, hserve, -⟩
  · rw [hserve]
    constructor
    · intro hadmitted
      cases hadmitted
    · intro hroom
      omega
  · rw [hserve]
    exact ⟨fun _ => hroom, fun _ => rfl⟩

/-- The window of a key after a run in which no key was forgotten. -/
theorem holdsWindow_entriesAfter {hits : List WindowHit}
    (hrates : FixedRates limitOf windowOf hits)
    (hordered : hits.Pairwise fun earlier later => earlier.now ≤ later.now)
    (hfew : (hits.map WindowHit.entryKey).dedup.length ≤ maxKeys) (key : Text × Text) {last : ℚ}
    (hlast : ∀ hit ∈ hits, hit.now ≤ last) :
    HoldsWindow (limitOf key.1) (windowOf key.1) (admittedTimes maxKeys key [] hits)
      (timestampsOf (entriesAfter maxKeys [] hits) key) last := by
  induction hits using List.reverseRecOn generalizing last with
  | nil =>
    refine ⟨List.Pairwise.nil, ?_, ?_, [], rfl, ?_⟩
    · exact fun time htime => absurd htime List.not_mem_nil
    · intro pre time post hsplit
      exact absurd hsplit.symm (List.append_ne_nil_of_right_ne_nil pre (List.cons_ne_nil time post))
    · exact fun time htime => absurd htime List.not_mem_nil
  | append_singleton hits hit ih =>
    have hmem : hit ∈ hits ++ [hit] := List.mem_append_right _ List.mem_cons_self
    rw [List.pairwise_append] at hordered
    have hprefix : HoldsWindow (limitOf key.1) (windowOf key.1) (admittedTimes maxKeys key [] hits)
        (timestampsOf (entriesAfter maxKeys [] hits) key) hit.now :=
      ih (hrates.mono (List.subset_append_left _ _)) hordered.1 (dedup_prefix_le.trans hfew)
        fun earlier hearlier => hordered.2.2 earlier hearlier hit List.mem_cons_self
    apply HoldsWindow.later _ (hlast hit hmem)
    rw [admittedTimes_concat maxKeys key hits hit (hrates.limits hit hmem), entriesAfter_append]
    change HoldsWindow _ _ _
      (timestampsOf (hit.serve maxKeys (entriesAfter maxKeys [] hits)).2 key) _
    rw [timestampsOf_serve_of_few maxKeys hrates.limits hfew]
    by_cases hkey : hit.entryKey = key
    · subst hkey
      have hlive : hit.live (entriesAfter maxKeys [] hits) =
          (timestampsOf (entriesAfter maxKeys [] hits) hit.entryKey).dropWhile
            (· ≤ hit.now - (windowOf hit.entryKey.1 : ℚ)) := by
        rw [WindowHit.live, hrates.window hit hmem]
        rfl
      have hlimit : hit.limit = limitOf hit.entryKey.1 := hrates.limit hit hmem
      by_cases hroom : (hit.live (entriesAfter maxKeys [] hits)).length < hit.limit
      · rw [if_pos ⟨rfl, hroom⟩, if_pos rfl, if_neg (Nat.not_le.mpr hroom)]
        rw [hlimit] at hroom
        rw [hlive] at hroom ⊢
        exact hprefix.extend hroom
      · rw [if_neg fun h => hroom h.2, if_pos rfl, if_pos (Nat.le_of_not_lt hroom), List.append_nil,
          hlive]
        exact hprefix.dropWhile
    · rw [if_neg fun h => hkey h.1, if_neg hkey, List.append_nil]
      exact hprefix

/-! ## Waiting -/

private theorem lt_truncate_add_one (x : ℚ) : x < truncate x + 1 := by
  rw [truncate]
  split
  · exact Int.lt_floor_add_one x
  · have hceil := Int.le_ceil x
    linarith

/-- The wait that is asked for takes the oldest timestamp out of the window. -/
theorem WindowHit.left_after_retry {hit again : WindowHit} {first : ℚ}
    (hwindow : again.windowSeconds = hit.windowSeconds)
    (hwait : hit.now + hit.retryAfter first ≤ again.now) :
    first ≤ again.now - again.windowSeconds := by
  have hround := lt_truncate_add_one (hit.windowSeconds - (hit.now - first))
  have hretry : ((truncate (hit.windowSeconds - (hit.now - first)) + 1 : ℤ) : ℚ) ≤
      hit.retryAfter first := Int.cast_le.mpr (le_max_right _ _)
  push_cast at hretry
  rw [hwindow]
  linarith

/-- After the wait there is room again. -/
theorem room_after_retry {hits between : List WindowHit} {hit again : WindowHit} {retry : ℤ}
    (hrates : FixedRates limitOf windowOf (hits ++ hit :: (between ++ [again])))
    (hrejected : (hit.serve maxKeys (entriesAfter maxKeys [] hits)).1 = .ok (some retry))
    (hagain : again.entryKey = hit.entryKey)
    (hother : ∀ other ∈ between, other.entryKey ≠ hit.entryKey)
    (hwait : hit.now + retry ≤ again.now) :
    (again.live (entriesAfter maxKeys [] (hits ++ hit :: between))).length < again.limit := by
  have hhit : hit ∈ hits ++ hit :: (between ++ [again]) :=
    List.mem_append_right _ List.mem_cons_self
  have hlater : again ∈ hits ++ hit :: (between ++ [again]) :=
    List.mem_append_right _ (List.mem_cons_of_mem _ (List.mem_append_right _ List.mem_cons_self))
  have hbucket : again.bucket = hit.bucket := congrArg Prod.fst hagain
  have hlimit : again.limit = limitOf hit.bucket := by
    rw [hrates.limit again hlater, hbucket]
  have hwindow : again.windowSeconds = hit.windowSeconds := by
    rw [hrates.window again hlater, hrates.window hit hhit, hbucket]
  have hbefore : FixedRates limitOf windowOf (hits ++ hit :: between) := by
    refine hrates.mono ?_
    rw [← List.cons_append, ← List.append_assoc]
    exact List.subset_append_left _ _
  have hempty : (([] : WindowEntries).map Prod.fst).Nodup := List.nodup_nil
  have hown : ∀ earlier ∈ hits ++ hit :: between, earlier.entryKey = hit.entryKey →
      earlier.limit = limitOf hit.bucket := by
    intro earlier hearlier hkey
    have hsame : earlier.bucket = hit.bucket := congrArg Prod.fst hkey
    rw [hbefore.limit earlier hearlier, hsame]
  have hstored :=
    length_timestampsOf_entriesAfter maxKeys hempty hbefore.limits hown (Nat.zero_le _)
  have hsplit : entriesAfter maxKeys [] (hits ++ hit :: between) =
      entriesAfter maxKeys (hit.serve maxKeys (entriesAfter maxKeys [] hits)).2 between :=
    entriesAfter_append maxKeys [] hits (hit :: between)
  have hnodup : ((hit.serve maxKeys (entriesAfter maxKeys [] hits)).2.map Prod.fst).Nodup :=
    hit.nodup_serve (hrates.limits hit hhit) (nodup_entriesAfter maxKeys hempty
      fun earlier hearlier => hbefore.limits earlier (List.mem_append_left _ hearlier))
  have hbetween := timestampsOf_entriesAfter_of_ne maxKeys hnodup (fun other hmem =>
    hbefore.limits other (List.mem_append_right _ (List.mem_cons_of_mem _ hmem))) hother
  rcases hit.serve_cases maxKeys (entriesAfter maxKeys [] hits) (hrates.limits hit hhit) with
    ⟨-, first, rest, -, hserve⟩ | ⟨-, n, hserve, -⟩
  · rw [hserve] at hrejected
    obtain rfl : hit.retryAfter first = retry := Option.some.inj (Except.ok.inj hrejected)
    rw [hserve, timestampsOf_moveToEnd, if_pos rfl] at hbetween
    rw [hsplit, hserve] at hstored ⊢
    rw [WindowHit.live, hagain, hlimit]
    rcases hbetween with hkept | hforgotten
    · have hleft := hit.left_after_retry hwindow hwait
      rw [hkept, List.length_cons] at hstored
      rw [hkept, List.dropWhile_cons, if_pos (decide_eq_true hleft)]
      have hshorter := (List.dropWhile_sublist
        (fun time => decide (time ≤ again.now - again.windowSeconds)) (l := rest)).length_le
      omega
    · rw [hforgotten]
      exact hrates.positive hit.bucket
  · rw [hserve] at hrejected
    cases hrejected

/-- A rejection means that the window of the key is full. -/
theorem countP_admittedTimes_of_rejected {hits : List WindowHit} {hit : WindowHit}
    (hrates : FixedRates limitOf windowOf (hits ++ [hit]))
    (hordered : (hits ++ [hit]).Pairwise fun earlier later => earlier.now ≤ later.now)
    (hfew : ((hits ++ [hit]).map WindowHit.entryKey).dedup.length ≤ maxKeys)
    (hfull : hit.limit ≤ (hit.live (entriesAfter maxKeys [] hits)).length) :
    ((admittedTimes maxKeys hit.entryKey [] hits).countP fun time =>
      hit.now - windowOf hit.bucket < time ∧ time ≤ hit.now) = limitOf hit.bucket := by
  have hmem : hit ∈ hits ++ [hit] := List.mem_append_right _ List.mem_cons_self
  have hbefore : FixedRates limitOf windowOf hits := hrates.mono (List.subset_append_left _ _)
  rw [List.pairwise_append] at hordered
  have hholds := holdsWindow_entriesAfter maxKeys hbefore hordered.1 (dedup_prefix_le.trans hfew)
    hit.entryKey fun earlier hearlier => hordered.2.2 earlier hearlier hit List.mem_cons_self
  have hcount := hholds.countP_eq
  rw [WindowHit.live, hrates.window hit hmem, hrates.limit hit hmem] at hfull
  refine le_antisymm ?_ ?_
  · exact hholds.spaced.countP_le hit.now
  · exact hfull.trans hcount.ge

/-- The answer to a hit after the hits before it. -/
def answerAfter (hits : List WindowHit) (hit : WindowHit) : Except Raised (Option ℤ) :=
  (hit.serve maxKeys (entriesAfter maxKeys [] hits)).1

theorem answerAfter_cases {hits : List WindowHit} {hit : WindowHit} (hlimit : 1 ≤ hit.limit) :
    (hit.limit ≤ (hit.live (entriesAfter maxKeys [] hits)).length ∧
      ∃ retry, answerAfter maxKeys hits hit = .ok (some retry)) ∨
    ((hit.live (entriesAfter maxKeys [] hits)).length < hit.limit ∧
      answerAfter maxKeys hits hit = .ok none) := by
  rcases hit.serve_cases maxKeys (entriesAfter maxKeys [] hits) hlimit with
    ⟨hfull, first, rest, -, hserve⟩ | ⟨hroom, n, hserve, -⟩
  · left
    exact ⟨hfull, hit.retryAfter first, congrArg Prod.fst hserve⟩
  · right
    exact ⟨hroom, congrArg Prod.fst hserve⟩

/-- No more keys are tracked than allowed; while no more keys are used than that, every window
admits at most its limit and only a full window rejects; and a caller that waits as long as it is
told is admitted. -/
theorem slidingWindow_limits {hits : List WindowHit} (hrates : FixedRates limitOf windowOf hits)
    (hordered : hits.Pairwise fun earlier later => earlier.now ≤ later.now) :
    (∀ earlier hit later, hits = earlier ++ hit :: later →
      answerAfter maxKeys earlier hit = .ok none →
      (entriesAfter maxKeys [] (earlier ++ [hit])).length ≤ maxKeys) ∧
    ((hits.map WindowHit.entryKey).dedup.length ≤ maxKeys →
      ∀ key (t : ℚ), ((admittedTimes maxKeys key [] hits).countP fun time =>
        t - windowOf key.1 < time ∧ time ≤ t) ≤ limitOf key.1) ∧
    (∀ earlier hit later, hits = earlier ++ hit :: later →
      ((earlier ++ [hit]).map WindowHit.entryKey).dedup.length ≤ maxKeys →
      answerAfter maxKeys earlier hit ≠ .ok none →
      (∃ retry, answerAfter maxKeys earlier hit = .ok (some retry)) ∧
      ((admittedTimes maxKeys hit.entryKey [] earlier).countP fun time =>
        hit.now - windowOf hit.bucket < time ∧ time ≤ hit.now) = limitOf hit.bucket) ∧
    (∀ earlier hit between again later retry,
      hits = earlier ++ hit :: (between ++ again :: later) →
      answerAfter maxKeys earlier hit = .ok (some retry) →
      again.entryKey = hit.entryKey → (∀ other ∈ between, other.entryKey ≠ hit.entryKey) →
      hit.now + retry ≤ again.now →
      answerAfter maxKeys (earlier ++ hit :: between) again = .ok none) := by
  refine ⟨?_, ?_, ?_, ?_⟩
  · rintro earlier hit later rfl hadmitted
    have hlimit := hrates.limits hit (List.mem_append_right _ List.mem_cons_self)
    rw [entriesAfter_append]
    exact hit.length_serve_of_admitted hlimit hadmitted
  · intro hfew key t
    obtain ⟨last, hlast⟩ : ∃ last, ∀ hit ∈ hits, hit.now ≤ last := by
      rcases List.eq_nil_or_concat hits with rfl | ⟨front, final, rfl⟩
      · exact ⟨0, fun hit hhit => absurd hhit List.not_mem_nil⟩
      · refine ⟨final.now, fun hit hhit => ?_⟩
        rw [List.concat_eq_append, List.pairwise_append] at hordered
        rw [List.concat_eq_append, List.mem_append, List.mem_singleton] at hhit
        rcases hhit with hhit | rfl
        · exact hordered.2.2 hit hhit final List.mem_cons_self
        · exact le_rfl
    exact (holdsWindow_entriesAfter maxKeys hrates hordered hfew key hlast).spaced.countP_le t
  · rintro earlier hit later rfl hfew hrejected
    have hprefix : List.Sublist (earlier ++ [hit]) (earlier ++ hit :: later) :=
      (List.Sublist.refl earlier).append ((List.nil_sublist later).cons_cons hit)
    have hbefore := hrates.mono hprefix.subset
    have hlimit := hbefore.limits hit (List.mem_append_right _ List.mem_cons_self)
    rcases answerAfter_cases maxKeys hlimit with ⟨hfull, hretry⟩ | ⟨-, hadmitted⟩
    · exact ⟨hretry, countP_admittedTimes_of_rejected maxKeys hbefore
        (hordered.sublist hprefix) hfew hfull⟩
    · exact absurd hadmitted hrejected
  · rintro earlier hit between again later retry rfl hrejected hagain hother hwait
    have hbefore : FixedRates limitOf windowOf (earlier ++ hit :: (between ++ [again])) := by
      refine hrates.mono (List.Sublist.subset ?_)
      exact (List.Sublist.refl earlier).append (((List.Sublist.refl between).append
        ((List.nil_sublist later).cons_cons again)).cons_cons hit)
    have hroom := room_after_retry maxKeys hbefore hrejected hagain hother hwait
    have hlimit := hbefore.limits again (List.mem_append_right _
      (List.mem_cons_of_mem _ (List.mem_append_right _ List.mem_cons_self)))
    rcases answerAfter_cases maxKeys hlimit with ⟨hfull, -⟩ | ⟨-, hadmitted⟩
    · exact absurd hfull (Nat.not_le.mpr hroom)
    · exact hadmitted

end Runs

/-- A visitor's search, one a minute. -/
def visitorHit (now : ℚ) : WindowHit := ⟨"search".toList, "visitor".toList, 1, 60, now⟩

/-- The visitor searches, is told to wait 51 seconds, and waits. -/
theorem visitor_admitted_after_wait :
    answerAfter 10 [visitorHit 0, visitorHit 10] (visitorHit 61) = .ok none := by
  have hrates : FixedRates (fun _ => 1) (fun _ => 60)
      [visitorHit 0, visitorHit 10, visitorHit 61] := by
    refine ⟨fun _ => le_rfl, ?_, ?_⟩ <;> intro hit hhit <;>
      simp only [List.mem_cons, List.not_mem_nil, or_false] at hhit <;>
      rcases hhit with rfl | rfl | rfl <;> rfl
  have hordered : [visitorHit 0, visitorHit 10, visitorHit 61].Pairwise
      fun earlier later => earlier.now ≤ later.now := by decide +kernel
  exact (slidingWindow_limits 10 hrates hordered).2.2.2 [visitorHit 0] (visitorHit 10) []
    (visitorHit 61) [] 51 rfl (by decide +kernel) rfl (fun _ h => absurd h List.not_mem_nil)
    (by decide +kernel)

end RaceFrame
