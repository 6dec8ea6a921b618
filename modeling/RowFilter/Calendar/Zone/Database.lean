import RowFilter.Calendar.Zone.Asia
import RowFilter.Calendar.Zone.America
import RowFilter.Calendar.Zone.Europe
import RowFilter.Calendar.Zone.Australia
import RowFilter.Calendar.Zone.Pacific
import RowFilter.Calendar.Zone.Africa
/-!
# A zone database

Some zones by their names in the IANA database. Names are exact: neither case nor blanks
are forgiven.
-/
namespace RowFilter.Zone

/-- Each of the zones once. A name that is only a link has the transitions of its target. -/
def Database.zones : List Zone :=
  [utc, fixed "Etc/GMT+5" (-18000),
    Asia.tokyo, Asia.kolkata, Asia.kathmandu, America.newYork, Europe.berlin, Europe.london,
    America.saoPaulo, Australia.lordHowe, Pacific.apia, America.havana, America.stJohns,
    Africa.cairo, America.nuuk, Asia.tehran, Pacific.kiritimati,
    { America.newYork with name := "US/Eastern" }]

/-- The database of these zones. -/
def Database.bundled : Database := fun name => zones.find? fun z => z.name = name

end RowFilter.Zone
