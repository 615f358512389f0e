import RaceFrame.Core.Maxima
import RaceFrame.Matching.Rebuild

/-!
# Evidence for one pair

The calls of `upsert_final_photo_participant_match` for one photo and one
participant. Source and confidence of the row are joins of what came for it, so
they do not depend on the order of the calls or on repetitions. The matched
value does: a row that has both sources appends the value of every further call.
-/

namespace RaceFrame

open Core

variable {F : Type}

/-- The sources that the callers pass. -/
inductive EvidenceSource
  | ocr | face
  deriving DecidableEq, Repr

/-- The source as it is stored. -/
def EvidenceSource.toMatch : EvidenceSource → MatchSource
  | .ocr => .ocr
  | .face => .face

/-- What one call says about a photo and a participant. -/
structure Evidence (F : Type) where
  source : EvidenceSource
  matchedValue : Text
  confidence : Option F

/-- The row that a call passes. -/
def Evidence.toRow (eventId photoId participantId : Uuid) (evidence : Evidence F) :
    PhotoParticipantMatch F where
  eventId := eventId
  photoId := photoId
  participantId := participantId
  matchSource := evidence.source.toMatch
  matchedValue := evidence.matchedValue
  confidence := evidence.confidence

/-- The source of a row after calls with these sources. -/
def joinedSource (first : EvidenceSource) (rest : List EvidenceSource) : MatchSource :=
  if ∀ source ∈ rest, source = first then first.toMatch else .ocrFace

theorem mergedSource_ocrFace (source : MatchSource) : mergedSource .ocrFace source = .ocrFace := by
  cases source <;> rfl

private theorem foldl_mergedSource_ocrFace (sources : List MatchSource) :
    sources.foldl mergedSource .ocrFace = .ocrFace := by
  induction sources with
  | nil => rfl
  | cons source sources ih => rw [List.foldl_cons, mergedSource_ocrFace, ih]

/-- The source that is stored after a sequence of calls. -/
theorem foldl_mergedSource (first : EvidenceSource) (rest : List EvidenceSource) :
    (rest.map EvidenceSource.toMatch).foldl mergedSource first.toMatch =
      joinedSource first rest := by
  induction rest with
  | nil => exact (if_pos fun source hsource => absurd hsource List.not_mem_nil).symm
  | cons second rest ih =>
    rw [List.map_cons, List.foldl_cons]
    by_cases hsame : second = first
    · have hmerged : mergedSource first.toMatch second.toMatch = first.toMatch := by
        rw [hsame]
        exact if_pos rfl
      rw [hmerged, ih, joinedSource, joinedSource]
      simp [hsame]
    · have hmerged : mergedSource first.toMatch second.toMatch = .ocrFace := by
        revert hsame
        cases first <;> cases second <;> decide
      have hmixed : ¬ ∀ source ∈ second :: rest, source = first := fun hall =>
        hsame (hall second List.mem_cons_self)
      rw [hmerged, foldl_mergedSource_ocrFace, joinedSource, if_neg hmixed]

/-- The source depends on the set of the calls' sources only. -/
theorem joinedSource_congr {first first' : EvidenceSource} {rest rest' : List EvidenceSource}
    (h : ∀ source, source ∈ first :: rest ↔ source ∈ first' :: rest') :
    joinedSource first rest = joinedSource first' rest' := by
  unfold joinedSource
  by_cases hall : ∀ source ∈ rest, source = first
  · have hsame : ∀ source ∈ first' :: rest', source = first := by
      intro source hsource
      rcases List.mem_cons.mp ((h source).mpr hsource) with rfl | hrest
      · rfl
      · exact hall source hrest
    have hfirst : first' = first := hsame first' List.mem_cons_self
    have hall' : ∀ source ∈ rest', source = first' := fun source hsource =>
      (hsame source (List.mem_cons_of_mem first' hsource)).trans hfirst.symm
    rw [if_pos hall, if_pos hall', hfirst]
  · have hnot : ¬ ∀ source ∈ rest', source = first' := by
      intro hall'
      have hsame : ∀ source ∈ first :: rest, source = first' := by
        intro source hsource
        rcases List.mem_cons.mp ((h source).mp hsource) with rfl | hrest
        · rfl
        · exact hall' source hrest
      refine hall fun source hsource => ?_
      rw [hsame source (List.mem_cons_of_mem first hsource), hsame first List.mem_cons_self]
    rw [if_neg hall, if_neg hnot]

/-! ## The calls -/

variable [Scalar F]

omit [Scalar F] in
@[simp] theorem Evidence.toRow_key (eventId photoId participantId : Uuid)
    (evidence : Evidence F) :
    (evidence.toRow eventId photoId participantId).key = (photoId, participantId) := rfl

/-- `merged_confidence` is the larger of the two confidences. -/
theorem mergedConfidence_eq_larger? (stored excluded : Option F) :
    mergedConfidence stored excluded = larger? stored excluded := by
  cases stored with
  | none => rfl
  | some c =>
    cases excluded with
    | none => rfl
    | some d =>
      change (if d ≤ c then some c else some d) = some (max c d)
      by_cases hle : d ≤ c
      · rw [if_pos hle, max_eq_left hle]
      · rw [if_neg hle, max_eq_right (le_of_not_ge hle)]

/-- The calls for one photo and one participant, one after the other. -/
def recordEvidence (eventId photoId participantId : Uuid) (calls : List (Evidence F)) :
    Request F PUnit :=
  calls.forM fun evidence =>
    upsertFinalPhotoParticipantMatch (evidence.toRow eventId photoId participantId)

/-- What the calls leave in the transaction. -/
theorem run_recordEvidence (eventId photoId participantId : Uuid) (calls : List (Evidence F))
    (s : Session F) :
    (recordEvidence eventId photoId participantId calls).run s =
      (.ok (), s.execute fun db =>
        db.upsertMatches (calls.map (Evidence.toRow eventId photoId participantId))) := by
  have hcall : ∀ (evidence : Evidence F) (s : Session F),
      (upsertFinalPhotoParticipantMatch (evidence.toRow eventId photoId participantId)).run s =
        (.ok (), s.execute fun db =>
          db.upsertMatch (evidence.toRow eventId photoId participantId)) := fun _ _ => rfl
  rw [recordEvidence, Request.run_forM_execute s hcall]
  simp only [Database.upsertMatches, List.foldl_map]

/-- The row of the photo and the participant after the calls. -/
def evidenceRow (eventId photoId participantId : Uuid)
    (table : Table (PhotoParticipantMatch F) PhotoParticipantMatch.key)
    (calls : List (Evidence F)) : Option (PhotoParticipantMatch F) :=
  (calls.map fun evidence => (evidence.toRow eventId photoId participantId).clamped).foldl
    (mergeInto mergeMatch) (table.get? (photoId, participantId))

/-- The row that the calls leave. -/
theorem get?_recordEvidence (eventId photoId participantId : Uuid) (calls : List (Evidence F))
    (s : Session F) :
    let after := ((recordEvidence eventId photoId participantId calls).run s).2.flushed
    after.photoParticipantMatches.get? (photoId, participantId) =
      evidenceRow eventId photoId participantId s.flushed.photoParticipantMatches calls := by
  dsimp only
  rw [run_recordEvidence, evidenceRow]
  change (s.flushed.upsertMatches _).photoParticipantMatches.get? _ = _
  rw [Database.upsertMatches_eq]
  change (upsertedMatches _ _).get? _ = _
  rw [get?_upsertedMatches, List.map_map, List.filter_eq_self.mpr]
  · rfl
  · intro row hrow
    obtain ⟨evidence, -, rfl⟩ := List.mem_map.mp hrow
    exact decide_eq_true rfl

/-! ## Source, confidence and value -/

omit [Scalar F] in
/-- A stored value is not empty and fits its column. -/
theorem clampMatchValue_bounds (value : Text) :
    clampMatchValue value ≠ [] ∧ (clampMatchValue value).length ≤ 255 := by
  unfold clampMatchValue
  dsimp only
  by_cases hempty : (strip value).isEmpty = true
  · rw [if_pos hempty]
    decide
  · rw [if_neg hempty]
    constructor
    · rw [Ne, List.take_eq_nil_iff]
      simpa using hempty
    · rw [List.length_take]
      exact Nat.min_le_left 255 _

omit [Scalar F] in
theorem mergedValue_bounds {stored excluded : PhotoParticipantMatch F}
    (hstored : stored.matchedValue ≠ [])
    (hexcluded : excluded.matchedValue ≠ [] ∧ excluded.matchedValue.length ≤ 255) :
    mergedValue stored excluded ≠ [] ∧ (mergedValue stored excluded).length ≤ 255 := by
  unfold mergedValue
  by_cases hsame : stored.matchSource = excluded.matchSource
  · rw [if_pos hsame]
    exact hexcluded
  · rw [if_neg hsame]
    constructor
    · simp [List.take_eq_nil_iff, hstored]
    · rw [List.length_take]
      exact Nat.min_le_left 255 _

private theorem foldl_mergeMatch_bounds {rows : List (PhotoParticipantMatch F)}
    (hrows : ∀ row ∈ rows, row.matchedValue ≠ [] ∧ row.matchedValue.length ≤ 255)
    {first : PhotoParticipantMatch F}
    (hfirst : first.matchedValue ≠ [] ∧ first.matchedValue.length ≤ 255) :
    (rows.foldl mergeMatch first).matchedValue ≠ [] ∧
      (rows.foldl mergeMatch first).matchedValue.length ≤ 255 := by
  induction rows generalizing first with
  | nil => exact hfirst
  | cons row rows ih =>
    refine ih (fun r hr => hrows r (List.mem_cons_of_mem row hr)) ?_
    exact mergedValue_bounds hfirst.1 (hrows row List.mem_cons_self)

private theorem foldl_mergeMatch_matchSource (rows : List (PhotoParticipantMatch F))
    (first : PhotoParticipantMatch F) :
    (rows.foldl mergeMatch first).matchSource =
      (rows.map PhotoParticipantMatch.matchSource).foldl mergedSource first.matchSource := by
  induction rows generalizing first with
  | nil => rfl
  | cons row rows ih => exact ih (mergeMatch first row)

private theorem foldl_mergeMatch_confidence (rows : List (PhotoParticipantMatch F))
    (first : PhotoParticipantMatch F) :
    (rows.foldl mergeMatch first).confidence =
      (rows.map PhotoParticipantMatch.confidence).foldl larger? first.confidence := by
  induction rows generalizing first with
  | nil => rfl
  | cons row rows ih =>
    rw [List.foldl_cons, ih, List.map_cons, List.foldl_cons, ← mergedConfidence_eq_larger?]
    rfl

/-- What the calls for a new pair leave: the joined source, the largest confidence, and a value
that fits. -/
theorem evidenceRow_cons {eventId photoId participantId : Uuid}
    {table : Table (PhotoParticipantMatch F) PhotoParticipantMatch.key}
    (hnew : table.get? (photoId, participantId) = none) (first : Evidence F)
    (rest : List (Evidence F)) :
    ∃ row, evidenceRow eventId photoId participantId table (first :: rest) = some row ∧
      row.matchSource = joinedSource first.source (rest.map Evidence.source) ∧
      row.confidence = ((first :: rest).map Evidence.confidence).reduceOption.max? ∧
      row.matchedValue ≠ [] ∧ row.matchedValue.length ≤ 255 := by
  have hclamped : ∀ evidence : Evidence F,
      (evidence.toRow eventId photoId participantId).clamped.matchedValue ≠ [] ∧
        (evidence.toRow eventId photoId participantId).clamped.matchedValue.length ≤ 255 :=
    fun evidence => clampMatchValue_bounds evidence.matchedValue
  have hrow : evidenceRow eventId photoId participantId table (first :: rest) =
      some ((rest.map fun evidence =>
        (evidence.toRow eventId photoId participantId).clamped).foldl mergeMatch
          (first.toRow eventId photoId participantId).clamped) := by
    rw [evidenceRow, hnew, List.map_cons, List.foldl_cons]
    exact foldl_mergeInto_some _ _ _
  refine ⟨_, hrow, ?_, ?_, ?_⟩
  · rw [foldl_mergeMatch_matchSource, List.map_map, ← foldl_mergedSource, List.map_map]
    rfl
  · rw [foldl_mergeMatch_confidence, List.map_map, List.map_cons, ← foldl_larger?]
    rfl
  · refine foldl_mergeMatch_bounds (fun row hmem => ?_) (hclamped first)
    obtain ⟨evidence, -, rfl⟩ := List.mem_map.mp hmem
    exact hclamped evidence

/-- The calls for a new pair leave exactly one row. Its source is the common one of the calls or
both, its confidence the largest that is not null, and its value fits; source and confidence depend
on the set of the calls only. -/
theorem recordEvidence_joins (eventId : Uuid) {photoId participantId : Uuid} {s : Session F}
    (hnew : s.flushed.photoParticipantMatches.get? (photoId, participantId) = none)
    (first : Evidence F) (rest : List (Evidence F)) :
    let after := fun calls =>
      ((recordEvidence eventId photoId participantId calls).run s).2.flushed.photoParticipantMatches
    ∃ row,
      (∀ other, (other ∈ (after (first :: rest)).rows ∧ other.key = (photoId, participantId)) ↔
        other = row) ∧
      row.matchSource = joinedSource first.source (rest.map Evidence.source) ∧
      row.confidence = ((first :: rest).map Evidence.confidence).reduceOption.max? ∧
      row.matchedValue ≠ [] ∧ row.matchedValue.length ≤ 255 ∧
      ∀ first' rest', (∀ evidence, evidence ∈ first' :: rest' ↔ evidence ∈ first :: rest) →
        ∃ row', (after (first' :: rest')).get? (photoId, participantId) = some row' ∧
          row'.matchSource = row.matchSource ∧ row'.confidence = row.confidence := by
  intro after
  have hafter : ∀ calls, (after calls).get? (photoId, participantId) =
      evidenceRow eventId photoId participantId s.flushed.photoParticipantMatches calls :=
    fun calls => get?_recordEvidence eventId photoId participantId calls s
  obtain ⟨row, hrow, hsource, hconfidence, hvalue, hlength⟩ := evidenceRow_cons hnew first rest
  refine ⟨row, fun other => ?_, hsource, hconfidence, hvalue, hlength, fun first' rest' hsame => ?_⟩
  · rw [← Table.get?_eq_some_iff, hafter, hrow, Option.some.injEq]
    exact eq_comm
  · obtain ⟨row', hrow', hsource', hconfidence', -⟩ := evidenceRow_cons hnew first' rest'
    refine ⟨row', (hafter _).trans hrow', ?_, ?_⟩
    · rw [hsource', hsource]
      refine joinedSource_congr fun source => ?_
      rw [← List.map_cons, ← List.map_cons, List.mem_map, List.mem_map]
      exact exists_congr fun evidence => by rw [hsame evidence]
    · rw [hconfidence', hconfidence]
      refine max?_congr fun value => ?_
      rw [List.reduceOption_mem_iff, List.reduceOption_mem_iff, List.mem_map, List.mem_map]
      exact exists_congr fun evidence => by rw [hsame evidence]

/-- A session on an empty database. -/
def emptySession : Session ℚ := Session.sessionLocal (World.still 0 fun _ => 0) Database.empty

/-- A bib that is read on a photo. -/
def bibRead : Evidence ℚ := ⟨.ocr, "42".toList, some (8 / 10)⟩

/-- A face that is recognised on the photo. -/
def faceRecognised : Evidence ℚ := ⟨.face, "0.9100".toList, some (91 / 100)⟩

/-- A bib and a face leave one row with both sources and the larger confidence. -/
theorem bibRead_faceRecognised_joined :
    ∃ row, (∀ other, (other ∈ ((recordEvidence 7 1 5 [bibRead, faceRecognised]).run
          emptySession).2.flushed.photoParticipantMatches.rows ∧ other.key = (1, 5)) ↔
        other = row) ∧
      row.matchSource = .ocrFace ∧ row.confidence = some (91 / 100) := by
  have hnew : emptySession.flushed.photoParticipantMatches.get? (1, 5) = none := rfl
  obtain ⟨row, honly, hsource, hconfidence, -⟩ :=
    recordEvidence_joins 7 hnew bibRead [faceRecognised]
  refine ⟨row, honly, ?_, ?_⟩
  · rw [hsource]
    rfl
  · rw [hconfidence]
    decide +kernel

/-! ## Repeated evidence -/

/-- The value that a row with another source takes up, before it is cut. -/
def appendedValue (stored excluded : PhotoParticipantMatch F) : Text :=
  stored.matchedValue ++ " | ".toList ++ excluded.matchSource.toText ++ ":".toList ++
    excluded.matchedValue

omit [Scalar F] in
theorem mergedValue_of_ne {stored excluded : PhotoParticipantMatch F}
    (h : stored.matchSource ≠ excluded.matchSource) :
    mergedValue stored excluded = (appendedValue stored excluded).take 255 :=
  if_neg h

omit [Scalar F] in
theorem length_lt_appendedValue (stored excluded : PhotoParticipantMatch F) :
    stored.matchedValue.length < (appendedValue stored excluded).length := by
  have hbar : " | ".toList.length = 3 := rfl
  simp only [appendedValue, List.length_append, hbar]
  omega

theorem mergedConfidence_mergedConfidence (stored excluded : Option F) :
    mergedConfidence (mergedConfidence stored excluded) excluded =
      mergedConfidence stored excluded := by
  rw [mergedConfidence_eq_larger?, mergedConfidence_eq_larger?]
  cases stored <;> cases excluded <;> simp [larger?]

theorem mergedSource_mergedSource (stored excluded : MatchSource) :
    mergedSource (mergedSource stored excluded) excluded = mergedSource stored excluded := by
  cases stored <;> cases excluded <;> rfl

/-- A new row is what its own repetition leaves. -/
theorem mergeMatch_self (row : PhotoParticipantMatch F) : mergeMatch row row = row := by
  have hconfidence : mergedConfidence row.confidence row.confidence = row.confidence := by
    rw [mergedConfidence_eq_larger?]
    cases row.confidence <;> simp [larger?]
  have hvalue : mergedValue row row = row.matchedValue := if_pos rfl
  have hsource : mergedSource row.matchSource row.matchSource = row.matchSource := if_pos rfl
  rw [mergeMatch, hconfidence, hvalue, hsource]

/-- A second merge of one row leaves the value that the first one left, or changes the row. -/
theorem mergeMatch_mergeMatch_eq_iff (stored excluded : PhotoParticipantMatch F) :
    mergeMatch (mergeMatch stored excluded) excluded = mergeMatch stored excluded ↔
      mergedValue (mergeMatch stored excluded) excluded = mergedValue stored excluded := by
  constructor
  · intro h
    exact congrArg PhotoParticipantMatch.matchedValue h
  · intro h
    change ({ stored with
      matchSource := mergedSource (mergedSource stored.matchSource excluded.matchSource)
        excluded.matchSource
      matchedValue := mergedValue (mergeMatch stored excluded) excluded
      confidence := mergedConfidence (mergedConfidence stored.confidence excluded.confidence)
        excluded.confidence } : PhotoParticipantMatch F) = _
    rw [mergedSource_mergedSource, mergedConfidence_mergedConfidence, h]
    rfl

/-- Merging evidence of one source a second time changes nothing exactly when the row has that
source, or its value is cut. -/
theorem mergeMatch_idempotent_iff {stored excluded : PhotoParticipantMatch F}
    (hsource : excluded.matchSource ≠ .ocrFace) :
    mergeMatch (mergeMatch stored excluded) excluded = mergeMatch stored excluded ↔
      stored.matchSource = excluded.matchSource ∨
        255 ≤ (appendedValue stored excluded).length := by
  rw [mergeMatch_mergeMatch_eq_iff]
  by_cases hsame : stored.matchSource = excluded.matchSource
  · have hsame' : (mergeMatch stored excluded).matchSource = excluded.matchSource :=
      (if_pos hsame).trans hsame
    rw [mergedValue, if_pos hsame', mergedValue, if_pos hsame]
    exact iff_of_true rfl (Or.inl hsame)
  · have hboth : mergedSource stored.matchSource excluded.matchSource = .ocrFace := by
      revert hsame hsource
      cases stored.matchSource <;> cases excluded.matchSource <;> decide
    have hsame' : (mergeMatch stored excluded).matchSource ≠ excluded.matchSource := by
      rw [mergeMatch, hboth]
      exact hsource.symm
    have honce : (mergeMatch stored excluded).matchedValue =
        (appendedValue stored excluded).take 255 := mergedValue_of_ne hsame
    have hgrows := length_lt_appendedValue (mergeMatch stored excluded) excluded
    rw [mergedValue_of_ne hsame', mergedValue_of_ne hsame, or_iff_right hsame]
    constructor
    · intro h
      by_contra hshort
      rw [not_le] at hshort
      have hlength := congrArg List.length h
      rw [honce, List.take_of_length_le hshort.le] at hgrows
      rw [List.length_take, List.take_of_length_le hshort.le] at hlength
      omega
    · intro hlong
      have hcut : (mergeMatch stored excluded).matchedValue.length = 255 := by
        rw [honce, List.length_take]
        exact Nat.min_eq_left hlong
      rw [appendedValue, List.append_assoc, List.append_assoc, List.append_assoc,
        List.take_append_of_le_length hcut.ge, List.take_of_length_le hcut.le, honce]

/-- The same call twice in a row leaves what it leaves once exactly when the pair had no row, or
its row has the source of the call, or the value that the call appends to is cut at 255 characters
anyway. -/
theorem recordEvidence_idempotent_iff (eventId photoId participantId : Uuid)
    (calls : List (Evidence F)) (evidence : Evidence F) (s : Session F) :
    let row? := fun calls =>
      ((recordEvidence eventId photoId participantId calls).run
        s).2.flushed.photoParticipantMatches.get? (photoId, participantId)
    row? (calls ++ [evidence, evidence]) = row? (calls ++ [evidence]) ↔
      ∀ row, row? calls = some row → row.matchSource = evidence.source.toMatch ∨
        255 ≤ (row.matchedValue ++ " | ".toList ++ evidence.source.toMatch.toText ++ ":".toList ++
          clampMatchValue evidence.matchedValue).length := by
  intro row?
  have hrow : ∀ calls, row? calls =
      evidenceRow eventId photoId participantId s.flushed.photoParticipantMatches calls :=
    fun calls => get?_recordEvidence eventId photoId participantId calls s
  have hsource : (evidence.toRow eventId photoId participantId).clamped.matchSource ≠ .ocrFace := by
    change evidence.source.toMatch ≠ .ocrFace
    cases evidence.source <;> decide
  rw [hrow, hrow, hrow]
  simp only [evidenceRow, List.map_append, List.map_cons, List.map_nil, List.foldl_append,
    List.foldl_cons, List.foldl_nil]
  cases (calls.map fun evidence => (evidence.toRow eventId photoId participantId).clamped).foldl
      (mergeInto mergeMatch) (s.flushed.photoParticipantMatches.get? (photoId, participantId)) with
  | none =>
    refine iff_of_true ?_ fun row hnone => absurd hnone.symm (Option.some_ne_none row)
    exact congrArg some (mergeMatch_self _)
  | some stored =>
    simp only [mergeInto, Option.some.injEq, forall_eq']
    exact mergeMatch_idempotent_iff hsource

/-- A bib that is read once more on a photo whose runner has been recognised is recorded again:
the row that the evidence has reached changes with each repetition. -/
theorem bibRead_recorded_twice :
    let value? := fun calls =>
      (((recordEvidence 7 1 5 calls).run emptySession).2.flushed.photoParticipantMatches.get?
        (1, 5)).map PhotoParticipantMatch.matchedValue
    value? [bibRead, faceRecognised, bibRead] =
        some "42 | face:0.9100 | ocr:42".toList ∧
      value? [bibRead, faceRecognised, bibRead, bibRead] =
        some "42 | face:0.9100 | ocr:42 | ocr:42".toList ∧
      value? [bibRead, faceRecognised, bibRead] ≠
        value? [bibRead, faceRecognised, bibRead, bibRead] := by
  decide +kernel

end RaceFrame
