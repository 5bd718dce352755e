/-!
# Base64

Bytes in the alphabet of 64 characters, three bytes in four characters, the last group filled up
with equals signs.
-/
namespace BoxOffice.Base64

/-- The character of a value below 64. -/
def symbol (value : Nat) : Char :=
  Char.ofNat
    (if value < 26 then 65 + value
    else if value < 52 then 71 + value
    else if value < 62 then value - 4
    else if value = 62 then 43
    else 47)

/-- The characters of some bytes. -/
def encodeCharacters : List UInt8 → List Char
  | [] => []
  | [first] =>
    let bits := first.toNat
    [symbol (bits / 4), symbol (bits % 4 * 16), '=', '=']
  | [first, second] =>
    let bits := first.toNat * 256 + second.toNat
    [symbol (bits / 1024), symbol (bits / 16 % 64), symbol (bits % 16 * 4), '=']
  | first :: second :: third :: rest =>
    let bits := (first.toNat * 256 + second.toNat) * 256 + third.toNat
    symbol (bits / 262144) :: symbol (bits / 4096 % 64) :: symbol (bits / 64 % 64) ::
      symbol (bits % 64) :: encodeCharacters rest

/-- The text of some bytes. -/
def encode (bytes : List UInt8) : String := String.ofList (encodeCharacters bytes)

end BoxOffice.Base64
