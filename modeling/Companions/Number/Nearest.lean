import Companions.Number.Shortest

/-! The double nearest to a decimal. -/
namespace Companions.Number

/-- The double nearest to a decimal; infinity when it is beyond all of them. -/
def Decimal.nearest (d : Decimal) : Float :=
  let top := d.exponent + (toString d.digits).length
  if d.digits = 0 then 0.0
  else if 310 < top then 1.0 / 0.0
  else if top < -330 then 0.0
  else Float.ofScientific d.digits (d.exponent < 0) d.exponent.natAbs

end Companions.Number
