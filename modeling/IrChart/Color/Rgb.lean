import IrChart.Random.Generator
import IrChart.Text.Basic

/-!
# Colors

Colors of three channels, colors on the hue circle, and complements.
-/

namespace IrChart

/-! ## Channels

A color has three channels of eight bits and is written as `#` with two uppercase hexadecimal
digits a channel.
-/

/-- A color by its red, green and blue channels. -/
structure Rgb where
  red : UInt8
  green : UInt8
  blue : UInt8
  deriving DecidableEq, Repr

namespace Rgb

def white : Rgb := ⟨255, 255, 255⟩

def black : Rgb := ⟨0, 0, 0⟩

/-- The uppercase hexadecimal digit of a number below sixteen. -/
def hexDigit (n : Nat) : Char :=
  Char.ofNat (if n < 10 then '0'.toNat + n else 'A'.toNat + (n - 10))

/-- The two hexadecimal digits of a byte. -/
def hexDigits (b : UInt8) : List Char := [hexDigit (b.toNat / 16), hexDigit (b.toNat % 16)]

/-- The color as `#RRGGBB`. -/
def toHex (c : Rgb) : String :=
  String.ofList ('#' :: (hexDigits c.red ++ hexDigits c.green ++ hexDigits c.blue))

/-- A color of three random bytes. -/
def random : Random.Draw Rgb := do
  let red ← Random.byte
  let green ← Random.byte
  let blue ← Random.byte
  return ⟨red, green, blue⟩

/-! ## Hue, saturation and value

The hue circle has six sectors of 60 degrees. In each, one channel has the value, one the least
amount that the saturation allows, and one lies between the two.
-/

/-- `x`, or the nearer bound if it lies outside; not a number stays not a number. -/
def clamp (low high x : Float) : Float := if x < low then low else if high < x then high else x

/-- The channel of an amount between 0 and 1; a half goes up. -/
def channel (amount : Float) : UInt8 := (amount * 255).round.toUInt8

/-- The color of an amount for each channel. -/
def ofAmounts (red green blue : Float) : Rgb := ⟨channel red, channel green, channel blue⟩

/-- The color of a hue in degrees and of saturation and value in percent. Arguments out of range
count as the nearest bound; a hue of 360 belongs to the last sector. -/
def ofHsv (hue saturation value : Float) : Rgb :=
  let h := clamp 0 360 hue
  let s := clamp 0 100 saturation / 100
  let v := clamp 0 100 value / 100
  if s == 0 then ofAmounts v v v
  else
    let turns := h / 60
    let sector := turns.floor
    let f := turns - sector
    let p := v * (1 - s)
    let q := v * (1 - s * f)
    let t := v * (1 - s * (1 - f))
    match sector.toUInt32.toNat with
    | 0 => ofAmounts v t p
    | 1 => ofAmounts q v p
    | 2 => ofAmounts p v t
    | 3 => ofAmounts p q v
    | 4 => ofAmounts t p v
    | _ => ofAmounts v p q

end Rgb

/-! ## Complements

The complement of a color lies on the other side of the hue circle and has the same saturation
and lightness. It is computed in single precision, one operation at a time.
-/

/-- A color by hue in degrees and saturation and lightness in percent. -/
structure Hsl where
  hue : Float32
  saturation : Float32
  lightness : Float32

namespace Rgb

/-- The lesser of two numbers. -/
def lesser (x y : Float32) : Float32 := if x < y then x else y

/-- The greater of two numbers. -/
def greater (x y : Float32) : Float32 := if x < y then y else x

/-- A channel as an amount between 0 and 1. -/
def amount (b : UInt8) : Float32 := Float32.ofNat b.toNat * (1 / 255)

/-- The color by hue, saturation and lightness. Grays have hue and saturation 0. -/
def toHsl (c : Rgb) : Hsl :=
  let r := amount c.red
  let g := amount c.green
  let b := amount c.blue
  let most := greater (greater r g) b
  let least := lesser (lesser r g) b
  let light := 0.5 * (least + most)
  let spread := most - least
  if spread > 1e-6 then
    let room := lesser light (1 - light)
    let saturation := if room > 1e-6 then (most - light) / room else 0
    let sixths :=
      if most == r then (g - b) / spread
      else if most == g then (b - r) / spread + 2
      else (r - g) / spread + 4
    let hue := sixths * 60
    ⟨hue - 360 * (hue * (1 / 360)).floor, saturation * 100, light * 100⟩
  else ⟨0, 0, light * 100⟩

/-- The hue across the circle from `hue`, for a hue from 0 to 360. -/
def opposite (hue : Float32) : Float32 :=
  let turned := hue + 180
  if turned < 360 then turned else turned - 360

/-- The channel of an amount, the nearest byte. -/
def byteOfAmount (x : Float32) : UInt8 := (x * 255 + 0.5).toUInt8

/-- The color of a hue, saturation and lightness. Each channel follows the hue at its own offset
on a circle of twelve. -/
def ofHsl (c : Hsl) : Rgb :=
  let saturation := c.saturation * 0.01
  let light := c.lightness * 0.01
  let reach := saturation * lesser light (1 - light)
  let channel (offset : Float32) : UInt8 :=
    let x := offset + c.hue * (1 / 30)
    let k := x - 12 * (x * (1 / 12)).floor
    let tent := lesser (k - 3) (9 - k)
    let bounded := greater (-1) (lesser 1 tent)
    byteOfAmount (light - reach * bounded)
  ⟨channel 0, channel 8, channel 4⟩

/-- The color across the hue circle. -/
def complement (c : Rgb) : Rgb :=
  let hsl := c.toHsl
  ofHsl { hsl with hue := opposite hsl.hue }

end Rgb
end IrChart
