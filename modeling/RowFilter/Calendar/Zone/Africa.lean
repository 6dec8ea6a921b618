import RowFilter.Calendar.Zone
/-!
# Zones of Africa

Offsets from universal time in seconds, and the seconds from which they hold.
-/
namespace RowFilter.Zone.Africa

def cairo : Zone where
  name := "Africa/Cairo"
  baseOffset := 7509
  transitions :=
    [⟨-2185409109, 7200⟩, ⟨-929844000, 10800⟩, ⟨-923108400, 7200⟩, ⟨-906170400, 10800⟩,
      ⟨-892868400, 7200⟩, ⟨-875844000, 10800⟩, ⟨-857790000, 7200⟩, ⟨-844308000, 10800⟩,
      ⟨-825822000, 7200⟩, ⟨-812685600, 10800⟩, ⟨-794199600, 7200⟩, ⟨-779853600, 10800⟩,
      ⟨-762663600, 7200⟩, ⟨-399088800, 10800⟩, ⟨-386650800, 7200⟩, ⟨-368330400, 10800⟩,
      ⟨-355114800, 7200⟩, ⟨-336790800, 10800⟩, ⟨-323654400, 7200⟩, ⟨-305168400, 10800⟩,
      ⟨-292032000, 7200⟩, ⟨-273632400, 10800⟩, ⟨-260496000, 7200⟩, ⟨-242096400, 10800⟩,
      ⟨-228960000, 7200⟩, ⟨-210560400, 10800⟩, ⟨-197424000, 7200⟩, ⟨-178938000, 10800⟩,
      ⟨-165801600, 7200⟩, ⟨-147402000, 10800⟩, ⟨-134265600, 7200⟩, ⟨-115866000, 10800⟩,
      ⟨-102643200, 7200⟩, ⟨-84330000, 10800⟩, ⟨-71107200, 7200⟩, ⟨-52707600, 10800⟩,
      ⟨-39484800, 7200⟩, ⟨-21171600, 10800⟩, ⟨-7948800, 7200⟩, ⟨10364400, 10800⟩,
      ⟨23587200, 7200⟩, ⟨41900400, 10800⟩, ⟨55123200, 7200⟩, ⟨73522800, 10800⟩, ⟨86745600, 7200⟩,
      ⟨105058800, 10800⟩, ⟨118281600, 7200⟩, ⟨136594800, 10800⟩, ⟨149817600, 7200⟩,
      ⟨168130800, 10800⟩, ⟨181353600, 7200⟩, ⟨199753200, 10800⟩, ⟨212976000, 7200⟩,
      ⟨231289200, 10800⟩, ⟨244512000, 7200⟩, ⟨262825200, 10800⟩, ⟨276048000, 7200⟩,
      ⟨294361200, 10800⟩, ⟨307584000, 7200⟩, ⟨325983600, 10800⟩, ⟨339206400, 7200⟩,
      ⟨357519600, 10800⟩, ⟨370742400, 7200⟩, ⟨396399600, 10800⟩, ⟨402278400, 7200⟩,
      ⟨426812400, 10800⟩, ⟨433814400, 7200⟩, ⟨452214000, 10800⟩, ⟨465436800, 7200⟩,
      ⟨483750000, 10800⟩, ⟨496972800, 7200⟩, ⟨515286000, 10800⟩, ⟨528508800, 7200⟩,
      ⟨546822000, 10800⟩, ⟨560044800, 7200⟩, ⟨578444400, 10800⟩, ⟨591667200, 7200⟩,
      ⟨610412400, 10800⟩, ⟨623203200, 7200⟩, ⟨641516400, 10800⟩, ⟨654739200, 7200⟩,
      ⟨673052400, 10800⟩, ⟨686275200, 7200⟩, ⟨704674800, 10800⟩, ⟨717897600, 7200⟩,
      ⟨736210800, 10800⟩, ⟨749433600, 7200⟩, ⟨767746800, 10800⟩, ⟨780969600, 7200⟩,
      ⟨799020000, 10800⟩, ⟨812322000, 7200⟩, ⟨830469600, 10800⟩, ⟨843771600, 7200⟩,
      ⟨861919200, 10800⟩, ⟨875221200, 7200⟩, ⟨893368800, 10800⟩, ⟨906670800, 7200⟩,
      ⟨925423200, 10800⟩, ⟨938725200, 7200⟩, ⟨956872800, 10800⟩, ⟨970174800, 7200⟩,
      ⟨988322400, 10800⟩, ⟨1001624400, 7200⟩, ⟨1019772000, 10800⟩, ⟨1033074000, 7200⟩,
      ⟨1051221600, 10800⟩, ⟨1064523600, 7200⟩, ⟨1083276000, 10800⟩, ⟨1096578000, 7200⟩,
      ⟨1114725600, 10800⟩, ⟨1128027600, 7200⟩, ⟨1146175200, 10800⟩, ⟨1158872400, 7200⟩,
      ⟨1177624800, 10800⟩, ⟨1189112400, 7200⟩, ⟨1209074400, 10800⟩, ⟨1219957200, 7200⟩,
      ⟨1240524000, 10800⟩, ⟨1250802000, 7200⟩, ⟨1272578400, 10800⟩, ⟨1281474000, 7200⟩,
      ⟨1284069600, 10800⟩, ⟨1285880400, 7200⟩, ⟨1400191200, 10800⟩, ⟨1403816400, 7200⟩,
      ⟨1406844000, 10800⟩, ⟨1411678800, 7200⟩, ⟨1682632800, 10800⟩, ⟨1698354000, 7200⟩,
      ⟨1714082400, 10800⟩, ⟨1730408400, 7200⟩, ⟨1745532000, 10800⟩, ⟨1761858000, 7200⟩,
      ⟨1776981600, 10800⟩, ⟨1793307600, 7200⟩, ⟨1809036000, 10800⟩, ⟨1824757200, 7200⟩,
      ⟨1840485600, 10800⟩, ⟨1856206800, 7200⟩, ⟨1871935200, 10800⟩, ⟨1887656400, 7200⟩,
      ⟨1903384800, 10800⟩, ⟨1919710800, 7200⟩, ⟨1934834400, 10800⟩, ⟨1951160400, 7200⟩,
      ⟨1966888800, 10800⟩, ⟨1982610000, 7200⟩, ⟨1998338400, 10800⟩, ⟨2014059600, 7200⟩,
      ⟨2029788000, 10800⟩, ⟨2045509200, 7200⟩, ⟨2061237600, 10800⟩, ⟨2076958800, 7200⟩,
      ⟨2092687200, 10800⟩, ⟨2109013200, 7200⟩, ⟨2124136800, 10800⟩, ⟨2140462800, 7200⟩,
      ⟨2156191200, 10800⟩, ⟨2171912400, 7200⟩, ⟨2187640800, 10800⟩, ⟨2203362000, 7200⟩,
      ⟨2219090400, 10800⟩, ⟨2234811600, 7200⟩, ⟨2250540000, 10800⟩, ⟨2266866000, 7200⟩,
      ⟨2281989600, 10800⟩, ⟨2298315600, 7200⟩, ⟨2313439200, 10800⟩, ⟨2329765200, 7200⟩,
      ⟨2345493600, 10800⟩, ⟨2361214800, 7200⟩, ⟨2376943200, 10800⟩, ⟨2392664400, 7200⟩,
      ⟨2408392800, 10800⟩, ⟨2424114000, 7200⟩, ⟨2439842400, 10800⟩, ⟨2456168400, 7200⟩,
      ⟨2471292000, 10800⟩, ⟨2487618000, 7200⟩, ⟨2503346400, 10800⟩, ⟨2519067600, 7200⟩,
      ⟨2534796000, 10800⟩, ⟨2550517200, 7200⟩, ⟨2566245600, 10800⟩, ⟨2581966800, 7200⟩,
      ⟨2597695200, 10800⟩, ⟨2614021200, 7200⟩, ⟨2629144800, 10800⟩, ⟨2645470800, 7200⟩,
      ⟨2660594400, 10800⟩, ⟨2676920400, 7200⟩, ⟨2692648800, 10800⟩, ⟨2708370000, 7200⟩,
      ⟨2724098400, 10800⟩, ⟨2739819600, 7200⟩, ⟨2755548000, 10800⟩, ⟨2771269200, 7200⟩,
      ⟨2786997600, 10800⟩, ⟨2803323600, 7200⟩, ⟨2818447200, 10800⟩, ⟨2834773200, 7200⟩,
      ⟨2850501600, 10800⟩, ⟨2866222800, 7200⟩, ⟨2881951200, 10800⟩, ⟨2897672400, 7200⟩,
      ⟨2913400800, 10800⟩, ⟨2929122000, 7200⟩, ⟨2944850400, 10800⟩, ⟨2960571600, 7200⟩,
      ⟨2976300000, 10800⟩, ⟨2992626000, 7200⟩, ⟨3007749600, 10800⟩, ⟨3024075600, 7200⟩,
      ⟨3039804000, 10800⟩, ⟨3055525200, 7200⟩, ⟨3071253600, 10800⟩, ⟨3086974800, 7200⟩,
      ⟨3102703200, 10800⟩, ⟨3118424400, 7200⟩, ⟨3134152800, 10800⟩, ⟨3150478800, 7200⟩,
      ⟨3165602400, 10800⟩, ⟨3181928400, 7200⟩, ⟨3197052000, 10800⟩, ⟨3213378000, 7200⟩,
      ⟨3229106400, 10800⟩, ⟨3244827600, 7200⟩, ⟨3260556000, 10800⟩, ⟨3276277200, 7200⟩,
      ⟨3292005600, 10800⟩, ⟨3307726800, 7200⟩, ⟨3323455200, 10800⟩, ⟨3339781200, 7200⟩,
      ⟨3354904800, 10800⟩, ⟨3371230800, 7200⟩, ⟨3386959200, 10800⟩, ⟨3402680400, 7200⟩,
      ⟨3418408800, 10800⟩, ⟨3434130000, 7200⟩, ⟨3449858400, 10800⟩, ⟨3465579600, 7200⟩,
      ⟨3481308000, 10800⟩, ⟨3497634000, 7200⟩, ⟨3512757600, 10800⟩, ⟨3529083600, 7200⟩,
      ⟨3544207200, 10800⟩, ⟨3560533200, 7200⟩, ⟨3576261600, 10800⟩, ⟨3591982800, 7200⟩,
      ⟨3607711200, 10800⟩, ⟨3623432400, 7200⟩, ⟨3639160800, 10800⟩, ⟨3654882000, 7200⟩,
      ⟨3670610400, 10800⟩, ⟨3686936400, 7200⟩, ⟨3702060000, 10800⟩, ⟨3718386000, 7200⟩,
      ⟨3734114400, 10800⟩, ⟨3749835600, 7200⟩, ⟨3765564000, 10800⟩, ⟨3781285200, 7200⟩,
      ⟨3797013600, 10800⟩, ⟨3812734800, 7200⟩, ⟨3828463200, 10800⟩, ⟨3844184400, 7200⟩,
      ⟨3859912800, 10800⟩, ⟨3876238800, 7200⟩, ⟨3891362400, 10800⟩, ⟨3907688400, 7200⟩,
      ⟨3923416800, 10800⟩, ⟨3939138000, 7200⟩, ⟨3954866400, 10800⟩, ⟨3970587600, 7200⟩,
      ⟨3986316000, 10800⟩, ⟨4002037200, 7200⟩, ⟨4017765600, 10800⟩, ⟨4034091600, 7200⟩,
      ⟨4049215200, 10800⟩, ⟨4065541200, 7200⟩, ⟨4080664800, 10800⟩, ⟨4096990800, 7200⟩]

end RowFilter.Zone.Africa
