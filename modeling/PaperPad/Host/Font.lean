import Mathlib.Data.List.Basic

/-!
# Host — Font

The embedded five-column bitmap font of `tools/paperspoon/src/font5x7.rs`: seven rows a glyph,
the leftmost column in bit four.
-/

namespace PaperPad.Host.Font

def WIDTH : Nat := 5
def HEIGHT : Nat := 7
def VERTICAL_SCALE : Nat := 2
def ADVANCE : Nat := WIDTH + 1

/-- The glyph of `?`, and of every character without one. -/
def unknown : List UInt8 := [0b01110, 0b10001, 0b00001, 0b00010, 0b00100, 0, 0b00100]

/-- The rows of a glyph from the top, five bits each. -/
def rows : Char → List UInt8
  | ' ' => [0, 0, 0, 0, 0, 0, 0]
  | '!' => [0b00100, 0b00100, 0b00100, 0b00100, 0b00100, 0, 0b00100]
  | '\x22' => [0b01010, 0b01010, 0b01010, 0, 0, 0, 0]
  | '#' => [0b01010, 0b11111, 0b01010, 0b01010, 0b11111, 0b01010, 0]
  | '$' => [0b00100, 0b01111, 0b10100, 0b01110, 0b00101, 0b11110, 0b00100]
  | '%' => [0b11001, 0b11010, 0b00100, 0b01000, 0b10110, 0b00110, 0]
  | '&' => [0b01100, 0b10010, 0b10100, 0b01000, 0b10101, 0b10010, 0b01101]
  | '\x27' => [0b00100, 0b00100, 0b01000, 0, 0, 0, 0]
  | '(' => [0b00010, 0b00100, 0b01000, 0b01000, 0b01000, 0b00100, 0b00010]
  | ')' => [0b01000, 0b00100, 0b00010, 0b00010, 0b00010, 0b00100, 0b01000]
  | '*' => [0, 0b10101, 0b01110, 0b11111, 0b01110, 0b10101, 0]
  | '+' => [0, 0b00100, 0b00100, 0b11111, 0b00100, 0b00100, 0]
  | ',' => [0, 0, 0, 0, 0b00110, 0b00100, 0b01000]
  | '-' => [0, 0, 0, 0b11111, 0, 0, 0]
  | '.' => [0, 0, 0, 0, 0, 0b01100, 0b01100]
  | '/' => [0b00001, 0b00010, 0b00100, 0b01000, 0b10000, 0, 0]
  | '0' => [0b01110, 0b10001, 0b10011, 0b10101, 0b11001, 0b10001, 0b01110]
  | '1' => [0b00100, 0b01100, 0b00100, 0b00100, 0b00100, 0b00100, 0b01110]
  | '2' => [0b01110, 0b10001, 0b00001, 0b00010, 0b00100, 0b01000, 0b11111]
  | '3' => [0b11110, 0b00001, 0b00001, 0b01110, 0b00001, 0b00001, 0b11110]
  | '4' => [0b00010, 0b00110, 0b01010, 0b10010, 0b11111, 0b00010, 0b00010]
  | '5' => [0b11111, 0b10000, 0b10000, 0b11110, 0b00001, 0b00001, 0b11110]
  | '6' => [0b01110, 0b10000, 0b10000, 0b11110, 0b10001, 0b10001, 0b01110]
  | '7' => [0b11111, 0b00001, 0b00010, 0b00100, 0b01000, 0b01000, 0b01000]
  | '8' => [0b01110, 0b10001, 0b10001, 0b01110, 0b10001, 0b10001, 0b01110]
  | '9' => [0b01110, 0b10001, 0b10001, 0b01111, 0b00001, 0b00001, 0b01110]
  | ':' => [0, 0b01100, 0b01100, 0, 0b01100, 0b01100, 0]
  | ';' => [0, 0b01100, 0b01100, 0, 0b01100, 0b00100, 0b01000]
  | '<' => [0b00010, 0b00100, 0b01000, 0b10000, 0b01000, 0b00100, 0b00010]
  | '=' => [0, 0b11111, 0, 0b11111, 0, 0, 0]
  | '>' => [0b01000, 0b00100, 0b00010, 0b00001, 0b00010, 0b00100, 0b01000]
  | '?' => [0b01110, 0b10001, 0b00001, 0b00010, 0b00100, 0, 0b00100]
  | '@' => [0b01110, 0b10001, 0b10111, 0b10101, 0b10111, 0b10000, 0b01110]
  | 'A' => [0b01110, 0b10001, 0b10001, 0b11111, 0b10001, 0b10001, 0b10001]
  | 'B' => [0b11110, 0b10001, 0b10001, 0b11110, 0b10001, 0b10001, 0b11110]
  | 'C' => [0b01110, 0b10001, 0b10000, 0b10000, 0b10000, 0b10001, 0b01110]
  | 'D' => [0b11110, 0b10001, 0b10001, 0b10001, 0b10001, 0b10001, 0b11110]
  | 'E' => [0b11111, 0b10000, 0b10000, 0b11110, 0b10000, 0b10000, 0b11111]
  | 'F' => [0b11111, 0b10000, 0b10000, 0b11110, 0b10000, 0b10000, 0b10000]
  | 'G' => [0b01110, 0b10001, 0b10000, 0b10111, 0b10001, 0b10001, 0b01110]
  | 'H' => [0b10001, 0b10001, 0b10001, 0b11111, 0b10001, 0b10001, 0b10001]
  | 'I' => [0b01110, 0b00100, 0b00100, 0b00100, 0b00100, 0b00100, 0b01110]
  | 'J' => [0b00111, 0b00010, 0b00010, 0b00010, 0b10010, 0b10010, 0b01100]
  | 'K' => [0b10001, 0b10010, 0b10100, 0b11000, 0b10100, 0b10010, 0b10001]
  | 'L' => [0b10000, 0b10000, 0b10000, 0b10000, 0b10000, 0b10000, 0b11111]
  | 'M' => [0b10001, 0b11011, 0b10101, 0b10101, 0b10001, 0b10001, 0b10001]
  | 'N' => [0b10001, 0b11001, 0b10101, 0b10011, 0b10001, 0b10001, 0b10001]
  | 'O' => [0b01110, 0b10001, 0b10001, 0b10001, 0b10001, 0b10001, 0b01110]
  | 'P' => [0b11110, 0b10001, 0b10001, 0b11110, 0b10000, 0b10000, 0b10000]
  | 'Q' => [0b01110, 0b10001, 0b10001, 0b10001, 0b10101, 0b10010, 0b01101]
  | 'R' => [0b11110, 0b10001, 0b10001, 0b11110, 0b10100, 0b10010, 0b10001]
  | 'S' => [0b01111, 0b10000, 0b10000, 0b01110, 0b00001, 0b00001, 0b11110]
  | 'T' => [0b11111, 0b00100, 0b00100, 0b00100, 0b00100, 0b00100, 0b00100]
  | 'U' => [0b10001, 0b10001, 0b10001, 0b10001, 0b10001, 0b10001, 0b01110]
  | 'V' => [0b10001, 0b10001, 0b10001, 0b10001, 0b10001, 0b01010, 0b00100]
  | 'W' => [0b10001, 0b10001, 0b10001, 0b10101, 0b10101, 0b10101, 0b01010]
  | 'X' => [0b10001, 0b10001, 0b01010, 0b00100, 0b01010, 0b10001, 0b10001]
  | 'Y' => [0b10001, 0b10001, 0b01010, 0b00100, 0b00100, 0b00100, 0b00100]
  | 'Z' => [0b11111, 0b00001, 0b00010, 0b00100, 0b01000, 0b10000, 0b11111]
  | '[' => [0b01110, 0b01000, 0b01000, 0b01000, 0b01000, 0b01000, 0b01110]
  | '\x5c' => [0b10000, 0b01000, 0b00100, 0b00010, 0b00001, 0, 0]
  | ']' => [0b01110, 0b00010, 0b00010, 0b00010, 0b00010, 0b00010, 0b01110]
  | '^' => [0b00100, 0b01010, 0b10001, 0, 0, 0, 0]
  | '_' => [0, 0, 0, 0, 0, 0, 0b11111]
  | '\x60' => [0b01000, 0b00100, 0b00010, 0, 0, 0, 0]
  | 'a' => [0, 0, 0b01110, 0b00001, 0b01111, 0b10001, 0b01111]
  | 'b' => [0b10000, 0b10000, 0b10110, 0b11001, 0b10001, 0b10001, 0b11110]
  | 'c' => [0, 0, 0b01110, 0b10001, 0b10000, 0b10001, 0b01110]
  | 'd' => [0b00001, 0b00001, 0b01101, 0b10011, 0b10001, 0b10001, 0b01111]
  | 'e' => [0, 0, 0b01110, 0b10001, 0b11111, 0b10000, 0b01110]
  | 'f' => [0b00110, 0b01001, 0b01000, 0b11100, 0b01000, 0b01000, 0b01000]
  | 'g' => [0, 0b01111, 0b10001, 0b10001, 0b01111, 0b00001, 0b01110]
  | 'h' => [0b10000, 0b10000, 0b10110, 0b11001, 0b10001, 0b10001, 0b10001]
  | 'i' => [0b00100, 0, 0b01100, 0b00100, 0b00100, 0b00100, 0b01110]
  | 'j' => [0b00010, 0, 0b00110, 0b00010, 0b00010, 0b10010, 0b01100]
  | 'k' => [0b10000, 0b10000, 0b10010, 0b10100, 0b11000, 0b10100, 0b10010]
  | 'l' => [0b01100, 0b00100, 0b00100, 0b00100, 0b00100, 0b00100, 0b01110]
  | 'm' => [0, 0, 0b11010, 0b10101, 0b10101, 0b10101, 0b10101]
  | 'n' => [0, 0, 0b10110, 0b11001, 0b10001, 0b10001, 0b10001]
  | 'o' => [0, 0, 0b01110, 0b10001, 0b10001, 0b10001, 0b01110]
  | 'p' => [0, 0, 0b11110, 0b10001, 0b11110, 0b10000, 0b10000]
  | 'q' => [0, 0, 0b01101, 0b10011, 0b01111, 0b00001, 0b00001]
  | 'r' => [0, 0, 0b10110, 0b11001, 0b10000, 0b10000, 0b10000]
  | 's' => [0, 0, 0b01111, 0b10000, 0b01110, 0b00001, 0b11110]
  | 't' => [0b01000, 0b01000, 0b11100, 0b01000, 0b01000, 0b01001, 0b00110]
  | 'u' => [0, 0, 0b10001, 0b10001, 0b10001, 0b10011, 0b01101]
  | 'v' => [0, 0, 0b10001, 0b10001, 0b10001, 0b01010, 0b00100]
  | 'w' => [0, 0, 0b10001, 0b10001, 0b10101, 0b10101, 0b01010]
  | 'x' => [0, 0, 0b10001, 0b01010, 0b00100, 0b01010, 0b10001]
  | 'y' => [0, 0, 0b10001, 0b10001, 0b01111, 0b00001, 0b01110]
  | 'z' => [0, 0, 0b11111, 0b00010, 0b00100, 0b01000, 0b11111]
  | '\x7b' => [0b00010, 0b00100, 0b00100, 0b01000, 0b00100, 0b00100, 0b00010]
  | '|' => [0b00100, 0b00100, 0b00100, 0b00100, 0b00100, 0b00100, 0b00100]
  | '\x7d' => [0b01000, 0b00100, 0b00100, 0b00010, 0b00100, 0b00100, 0b01000]
  | '~' => [0, 0b01001, 0b10110, 0, 0, 0, 0]
  | _ => unknown

/-- A raster row has ink in the column. -/
def Inks (rowBits : UInt8) (column : Nat) : Prop :=
  column < WIDTH ∧ ¬ rowBits &&& (1 : UInt8) <<< UInt8.ofNat (WIDTH - 1 - column) = 0

/-- The bitmap of a character. -/
def Bit (character : Char) (row column : Nat) : Prop :=
  ∃ rowBits, (rows character)[row]? = some rowBits ∧ Inks rowBits column

theorem length_rows (character : Char) : (rows character).length = HEIGHT := by
  unfold rows
  split <;> rfl

end PaperPad.Host.Font
