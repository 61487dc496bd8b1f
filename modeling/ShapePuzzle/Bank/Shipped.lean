import ShapePuzzle.Bank.Easy
import ShapePuzzle.Bank.Hard
import ShapePuzzle.Bank.Medium
import ShapePuzzle.Schema.Template

/-!
# The bank that comes with the game
-/
namespace ShapePuzzle

def Bank.shipped : Bank :=
  [("easy", Shipped.easy), ("medium", Shipped.medium), ("hard", Shipped.hard)]

end ShapePuzzle
