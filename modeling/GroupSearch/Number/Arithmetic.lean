import GroupSearch.Number.Double

-- Powers are those of the core library, whatever other instances are around.
attribute [local instance (2000)] instPowNat

namespace GroupSearch.Double

def units (negative : Bool) (mantissa : Nat) (exponent : Int) : Int :=
  let n : Nat := mantissa * 2 ^ (exponent - leastExponent).toNat
  if negative then -n else n

def ofUnits (negativeZero : Bool) (n : Int) : Double :=
  ofFraction (if n = 0 then negativeZero else n < 0) n.natAbs (2 ^ (-leastExponent).toNat)

def neg : Double → Double
  | finite negative mantissa exponent => finite (!negative) mantissa exponent
  | infinite negative => infinite !negative
  | undefined => undefined

def add : Double → Double → Double
  | finite s m e, finite t n f => ofUnits (s && t) (units s m e + units t n f)
  | infinite s, infinite t => if s = t then infinite s else undefined
  | infinite s, finite .. | finite .., infinite s => infinite s
  | undefined, _ | _, undefined => undefined

def mul : Double → Double → Double
  | finite s m e, finite t n f =>
    let (num, den) := fraction m e
    let (num', den') := fraction n f
    ofFraction (s != t) (num * num') (den * den')
  | infinite s, infinite t => infinite (s != t)
  | infinite s, finite t m _ | finite s m _, infinite t =>
    if m = 0 then undefined else infinite (s != t)
  | undefined, _ | _, undefined => undefined

end GroupSearch.Double
