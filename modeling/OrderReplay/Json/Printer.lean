import OrderReplay.Binary64.Written
import OrderReplay.Json.Quotation
import OrderReplay.Json.Value

/-! The compact written form of a value: no blanks, members in their order. -/
namespace OrderReplay.Json

def Number.written : Number → Text
  | .integer (.ofNat n) => Text.ofNat n
  | .integer (.negSucc n) => '-' :: Text.ofNat (n + 1)
  | .real x => x.written

mutual
def Value.written : Value → Text
  | .null => ['n', 'u', 'l', 'l']
  | .bool true => ['t', 'r', 'u', 'e']
  | .bool false => ['f', 'a', 'l', 's', 'e']
  | .number n => n.written
  | .string text => Quotation.render text
  | .list [] => ['[', ']']
  | .list (first :: rest) => '[' :: first.written ++ Value.writtenItems rest
  | .object [] => ['\x7b', '\x7d']
  | .object ((key, first) :: rest) =>
    '\x7b' :: Quotation.render key ++ ':' :: first.written ++ Value.writtenMembers rest

def Value.writtenItems : List Value → Text
  | [] => [']']
  | item :: rest => ',' :: item.written ++ Value.writtenItems rest

def Value.writtenMembers : List (Text × Value) → Text
  | [] => ['\x7d']
  | (key, value) :: rest =>
    ',' :: Quotation.render key ++ ':' :: value.written ++ Value.writtenMembers rest
end

end OrderReplay.Json
