/-!
# Kinds of piece

The seven kinds, their letters in move records and on the board diagram, and the names under which
a placement may call them. Every kind has one canonical name, which is the one that is written.
-/

namespace Xiangqi

/-- What a piece is, apart from its side and its square. -/
inductive Kind where
  | general
  | advisor
  | elephant
  | horse
  | chariot
  | cannon
  | pawn
deriving DecidableEq

namespace Kind

/-- The capital letter of the kind in WXF notation. -/
def letter : Kind → Char
  | general => 'K'
  | advisor => 'A'
  | elephant => 'E'
  | horse => 'H'
  | chariot => 'R'
  | cannon => 'C'
  | pawn => 'P'

/-- The small letter of the kind, for Black's pieces. -/
def smallLetter : Kind → Char
  | general => 'k'
  | advisor => 'a'
  | elephant => 'e'
  | horse => 'h'
  | chariot => 'r'
  | cannon => 'c'
  | pawn => 'p'

/-- The canonical name, used whenever a kind is written. -/
def name : Kind → String
  | general => "general"
  | advisor => "advisor"
  | elephant => "elephant"
  | horse => "horse"
  | chariot => "chariot"
  | cannon => "cannon"
  | pawn => "pawn"

/-- Further names under which a kind is understood. -/
def aliases : Kind → List String
  | general => ["king"]
  | elephant => ["minister", "bishop"]
  | horse => ["knight"]
  | chariot => ["rook"]
  | pawn => ["soldier"]
  | advisor | cannon => []

/-- Every kind once. -/
def all : List Kind := [general, advisor, elephant, horse, chariot, cannon, pawn]

/-- The kind that goes by the given name, canonical or alias; names are matched exactly. -/
def ofName? (text : String) : Option Kind :=
  all.find? fun kind => text == kind.name || kind.aliases.contains text

theorem mem_all (kind : Kind) : kind ∈ all := by
  cases kind <;> decide

theorem letter_injective {a b : Kind} (same : a.letter = b.letter) : a = b := by
  cases a <;> cases b <;> first | rfl | exact absurd same (by decide)

theorem smallLetter_injective {a b : Kind} (same : a.smallLetter = b.smallLetter) : a = b := by
  cases a <;> cases b <;> first | rfl | exact absurd same (by decide)

theorem letter_ne_smallLetter (a b : Kind) : a.letter ≠ b.smallLetter := by
  cases a <;> cases b <;> decide

@[simp] theorem ofName?_name (kind : Kind) : ofName? kind.name = some kind := by
  cases kind <;> decide

/-- Every alias names its own kind, so no name is shared by two kinds. -/
theorem ofName?_alias {kind : Kind} {text : String} (named : text ∈ kind.aliases) :
    ofName? text = some kind := by
  cases kind <;> simp only [aliases, List.mem_cons, List.not_mem_nil, or_false] at named
  all_goals first
    | (subst named; decide)
    | (rcases named with rfl | rfl <;> decide)

end Kind

end Xiangqi
