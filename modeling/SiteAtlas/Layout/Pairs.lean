/-! # Every pair of a list

`forPairs` lets each element of a list meet every later one, in order. A meeting may change both
elements and a state that is passed along, and may fail.
-/

namespace SiteAtlas

variable {β γ σ ε : Type}

/-- Let one element meet every element of a list. `anchor` is what was known about it before. -/
@[specialize]
def meetAll (meet : γ → β → β → σ → Except ε (β × β × σ)) (anchor : γ) :
    β → List β → σ → Except ε (β × List β × σ)
  | a, [], s => .ok (a, [], s)
  | a, b :: rest, s =>
    match meet anchor a b s with
    | .error e => .error e
    | .ok (a, b, s) =>
      match meetAll meet anchor a rest s with
      | .error e => .error e
      | .ok (a, rest, s) => .ok (a, b :: rest, s)

/-- Let each of the first `count` elements meet every later one. -/
@[specialize]
def forPairsFrom (anchor : β → γ) (meet : γ → β → β → σ → Except ε (β × β × σ)) :
    (count : Nat) → List β → σ → Except ε (List β × σ)
  | 0, all, s => .ok (all, s)
  | _ + 1, [], s => .ok ([], s)
  | count + 1, a :: rest, s =>
    match meetAll meet (anchor a) a rest s with
    | .error e => .error e
    | .ok (a, rest, s) =>
      match forPairsFrom anchor meet count rest s with
      | .error e => .error e
      | .ok (rest, s) => .ok (a :: rest, s)

/-- Let each element of a list meet every later one. -/
@[inline]
def forPairs (anchor : β → γ) (meet : γ → β → β → σ → Except ε (β × β × σ)) (all : List β)
    (s : σ) : Except ε (List β × σ) :=
  forPairsFrom anchor meet all.length all s

end SiteAtlas
