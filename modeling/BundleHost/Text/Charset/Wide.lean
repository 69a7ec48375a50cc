import BundleHost.Text.Charset.Basic

/-! Text in units of two or of four octets. The octets of a unit come in one of two orders, which
may be told by a mark at the start. -/

namespace BundleHost.Charset

/-- Which octet of a unit comes first. -/
inductive Order
  | little
  | big
deriving DecidableEq, Repr

namespace Order

def number (order : Order) (octets : List UInt8) : Nat :=
  let inOrder := match order with
    | little => octets.reverse
    | big => octets
  inOrder.foldl (fun n o => 256 * n + o.toNat) 0

def pairs (order : Order) : List UInt8 → Except Error (List Nat)
  | [] => .ok []
  | a :: b :: rest => (order.pairs rest).map (order.number [a, b] :: ·)
  | _ => .error .undecodable

/-- The code points of groups of four octets. -/
def groups (order : Order) : List UInt8 → Except Error (List Nat)
  | [] => .ok []
  | a :: b :: c :: d :: rest => (order.groups rest).map (order.number [a, b, c, d] :: ·)
  | _ => .error .undecodable

end Order

def ofUtf16 (order : Order) (octets : List UInt8) : Except Error Text :=
  (order.pairs octets).bind ofUnits

def ofUtf32 (order : Order) (octets : List UInt8) : Except Error Text := do
  (← order.groups octets).mapM charOf

/-- Contents without a mark, whose order is not known. They have to be readable nevertheless. -/
def unmarked (read : Except Error Text) : Except Error Text :=
  match read with
  | .ok [] => .ok []
  | .ok _ => .error .unfit
  | .error e => .error e

/-- Reads what follows the mark, in the order that it tells. -/
def ofMarkedUtf16 : List UInt8 → Except Error Text
  | 0xFF :: 0xFE :: rest => ofUtf16 .little rest
  | 0xFE :: 0xFF :: rest => ofUtf16 .big rest
  | octets => unmarked (ofUtf16 .little octets)

/-- Reads what follows the mark, in the order that it tells. -/
def ofMarkedUtf32 : List UInt8 → Except Error Text
  | 0xFF :: 0xFE :: 0 :: 0 :: rest => ofUtf32 .little rest
  | 0 :: 0 :: 0xFE :: 0xFF :: rest => ofUtf32 .big rest
  | octets => unmarked (ofUtf32 .little octets)

end BundleHost.Charset
