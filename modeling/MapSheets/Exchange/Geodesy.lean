import MapSheets.Exchange.Number
import MapSheets.Geodesy.Dms
import MapSheets.Geodesy.Survey

/-
Zones, grid points and printed angles in exchange.
-/

namespace MapSheets.Exchange

/-- An angle with its printed forms for some counts of places. -/
def dms (places : List Int) (d : Dms Float) : Outcome Json := do
  let texts ← places.mapM fun p => do return Json.str (← d.text? p)
  let decimal ← d.toDecimal
  return .obj [("degree", d.degree), ("minute", d.minute), ("second", exact d.second),
    ("hemisphere", d.hemisphere), ("strings", .arr texts), ("str", d.text 0),
    ("decimal", exact decimal)]

/-- The fields of a zone. -/
def zoneFields (z : Zone) : List (String × Json) :=
  [("kind", z.kind), ("number", z.number), ("is_numbered", z.isNumbered),
    ("label", Json.ofOption .str z.label?), ("str", z.text)]

/-- A zone. -/
def zone (z : Zone) : Json := .obj (zoneFields z)

/-- A point of a zone's grid, to a tenth of a millimeter. -/
def gridPoint (p : GridPoint Float) : Json :=
  .arr [fixed 4 p.easting, fixed 4 p.northing, p.zone, p.hemisphere.name]

/-- Reads an ellipsoid; null is the standard one. -/
def readEllipsoid : Json → Outcome (Ellipsoid Float)
  | .null => .ok .standard
  | j => do return { radius := ← j.realAt "radius", eccentricitySquared := ← j.realAt "es" }

end MapSheets.Exchange
