import AmqpHandshake.Decimal.Shortest

/-! JSON values. The entries of an object keep their order. -/
namespace AmqpHandshake

inductive Json
  | null
  | boolean (value : Bool)
  | integer (value : Int)
  | float (value : Binary64)
  | string (text : String)
  | array (elements : List Json)
  | object (entries : List (String × Json))
deriving Repr, Inhabited

namespace Json

/-- Leading digits are written in their place from the fifth place behind the point up to the
sixteenth before it, and with an exponent beyond; a tie between two shortest decimals goes to the
even one. -/
def numberStyle : NumberStyle := ⟨.toEven, some (-5, 15)⟩

def ofOption (encode : α → Json) : Option α → Json
  | none => .null
  | some value => encode value

end Json

end AmqpHandshake
