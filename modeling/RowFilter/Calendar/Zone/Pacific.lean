import RowFilter.Calendar.Zone
/-!
# Zones of Pacific

Offsets from universal time in seconds, and the seconds from which they hold.
-/
namespace RowFilter.Zone.Pacific

def apia : Zone where
  name := "Pacific/Apia"
  baseOffset := 45184
  transitions :=
    [⟨-2445424384, -41216⟩, ⟨-1861878784, -41400⟩, ⟨-631110600, -39600⟩, ⟨1285498800, -36000⟩,
      ⟨1301752800, -39600⟩, ⟨1316872800, -36000⟩, ⟨1325239200, 50400⟩, ⟨1333202400, 46800⟩,
      ⟨1348927200, 50400⟩, ⟨1365256800, 46800⟩, ⟨1380376800, 50400⟩, ⟨1396706400, 46800⟩,
      ⟨1411826400, 50400⟩, ⟨1428156000, 46800⟩, ⟨1443276000, 50400⟩, ⟨1459605600, 46800⟩,
      ⟨1474725600, 50400⟩, ⟨1491055200, 46800⟩, ⟨1506175200, 50400⟩, ⟨1522504800, 46800⟩,
      ⟨1538229600, 50400⟩, ⟨1554559200, 46800⟩, ⟨1569679200, 50400⟩, ⟨1586008800, 46800⟩,
      ⟨1601128800, 50400⟩, ⟨1617458400, 46800⟩]

def kiritimati : Zone where
  name := "Pacific/Kiritimati"
  baseOffset := -37760
  transitions :=
    [⟨-2177415040, -38400⟩, ⟨307622400, -36000⟩, ⟨788868000, 50400⟩]

end RowFilter.Zone.Pacific
