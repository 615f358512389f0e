import RaceFrame.Schema.Settings

/-!
# Embeddings

`normalize_embedding_payload` and `cosine_similarity` of `face.py`, over any
scalar type.
-/

namespace RaceFrame

variable {F : Type} [Scalar F]

/-- The number of coordinates of an embedding. -/
def embeddingDimensions : Nat := 512

/-- The first unit vector, the simplest embedding. -/
def firstUnit (F : Type) [Scalar F] : List F := 1 :: List.replicate (embeddingDimensions - 1) 0

/-- `math.sqrt(sum(x * x for x in xs))`. -/
def euclideanNorm (xs : List F) : F := Scalar.sqrt (Scalar.sum (xs.map fun x => x * x))

/-- `normalize_embedding_payload`; the empty list means that the payload is unusable. -/
def normalizeEmbeddingPayload (value : List F) : List F :=
  if value.length ≠ embeddingDimensions then []
  else if value.any fun x => !Scalar.isFinite x || decide (Scalar.ofRat 100 < max x (-x)) then []
  else
    let norm := euclideanNorm value
    if !Scalar.isFinite norm || decide (norm ≤ Scalar.ofRat (1 / 10 ^ 12)) then []
    else value.map (· / norm)

/-- `cosine_similarity`. -/
def cosineSimilarity (left right : List F) : F :=
  if left.isEmpty || right.isEmpty || left.length != right.length then 0
  else
    let dot := Scalar.sum (List.zipWith (· * ·) left right)
    let leftNorm := euclideanNorm left
    let rightNorm := euclideanNorm right
    if decide (leftNorm ≤ 0) || decide (rightNorm ≤ 0) then 0
    else max (-1) (min 1 (dot / (leftNorm * rightNorm)))

end RaceFrame
