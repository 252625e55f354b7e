/-! The compatibility decompositions of characters outside ASCII, as far as they hold ASCII
characters. -/

namespace VoiceMatch

/-- Runs of characters that keep one ASCII character each, from the first one on. A middle dot
stands for a character that keeps none. -/
def singleFoldings : List (Nat × String) := [
  (0xa0, " "),
  (0xa8, " ·a"),
  (0xaf, " ··23 ··· 1o"),
  (0xc0, "AAAAAA·CEEEEIIII·NOOOOO··UUUUY··aaaaaa·ceeeeiiii·nooooo··uuuuy·yAaAaAaCcCcC"),
  (0x10b, "cCcDd··EeEeEeEeEeGgGgGgGgHh··IiIiIiIiI···JjKk·LlLlLlLl··NnNnNnn··OoOoOo··Rr"),
  (0x156, "RrRrSsSsSsSsTtTt··UuUuUuUuUuUuWwYyYZzZzZzs"),
  (0x1a0, "Oo"),
  (0x1af, "Uu"),
  (0x1cd, "AaIiOoUuUuUuUuUu·AaAa"),
  (0x1e6, "GgKkOoOo··j···Gg··NnAa"),
  (0x200, "AaAaEeEeIiIiOoOoRrRrUuUuSsTt··Hh"),
  (0x226, "AaEeOoOoOoOoYy"),
  (0x2b0, "h·jr···wy"),
  (0x2d8, "      ···lsx"),
  (0x37a, " ···;"),
  (0x384, "  "),
  (0x1d2c, "A·B·DE·GHIJKLMN·O·PRTUWa···bde···g·km·o···ptu··v"),
  (0x1d62, "iruv"),
  (0x1d9c, "c···f"),
  (0x1dbb, "z"),
  (0x1e00, "AaBbBbBbCcDdDdDdDdDdEeEeEeEeEeFfGgHhHhHhHhHhIiIiKkKkKkLlLlLlLlMmMmMmNnNnNnN"),
  (0x1e4b, "nOoOoOoOoPpPpRrRrRrRrSsSsSsSsSsTtTtTtTtUuUuUuUuUuVvVvWwWwWwWwWwXxXxYyZzZzZz"),
  (0x1e96, "htwyas"),
  (0x1ea0, "AaAaAaAaAaAaAaAaAaAaAaAaEeEeEeEeEeEeEeEeIiIiOoOoOoOoOoOoOoOoOoOoOoOoUuUuUuU"),
  (0x1eeb, "uUuUuUuYyYyYyYy"),
  (0x1fbd, " ·   "),
  (0x1fcd, "   "),
  (0x1fdd, "   "),
  (0x1fed, "  `"),
  (0x1ffd, "  ·           "),
  (0x2017, " "),
  (0x2024, "."),
  (0x202f, " "),
  (0x203e, " "),
  (0x205f, " "),
  (0x2070, "0i··456789+·=()n0123456789+·=()·aeox·hklmnpstwyz"),
  (0x2102, "CC"),
  (0x2109, "FgHHHh·IILl·N···PQRRR"),
  (0x2124, "Z···Z·KABC·eEF·Mo"),
  (0x2139, "i"),
  (0x2145, "Ddeij"),
  (0x215f, "1I···V"),
  (0x2169, "X··LCDMi···v"),
  (0x2179, "x··lcdm"),
  (0x2260, "="),
  (0x226e, "<>"),
  (0x2460, "123456789"),
  (0x24b6, "ABCDEFGHIJKLMNOPQRSTUVWXYZabcdefghijklmnopqrstuvwxyz0"),
  (0x2c7c, "jV"),
  (0x3000, " "),
  (0x309b, "  "),
  (0x32c0, "123456789"),
  (0x3358, "0123456789"),
  (0x3382, "A"),
  (0x338c, "Fg"),
  (0x3395, "l"),
  (0x339b, "m"),
  (0x33b2, "s···V"),
  (0x33bc, "W···kM"),
  (0x33e0, "123456789"),
  (0xa7f1, "SCFQ"),
  (0xfb29, "+"),
  (0xfc5e, "      "),
  (0xfdfb, " "),
  (0xfe10, ",··:;!?"),
  (0xfe33, "__()\x7b\x7d"),
  (0xfe47, "[]    ___,·.·;:?!·()\x7b\x7d··#&*+-<>=·\\$%@"),
  (0xfe70, " · · · · · · · "),
  (0xff01, "!\"#$%&'()*+,-./0123456789:;<=>?@ABCDEFGHIJKLMNOPQRSTUVWXYZ[\\]^_`abcdefghi"),
  (0xff4a, "jklmnopqrstuvwxyz\x7b|\x7d~"),
  (0xffe3, " "),
  (0x107a5, "q"),
  (0x1ccd6, "ABCDEFGHIJKLMNOPQRSTUVWXYZ0123456789"),
  (0x1d400, "ABCDEFGHIJKLMNOPQRSTUVWXYZabcdefghijklmnopqrstuvwxyzABCDEFGHIJKLMNOPQRSTUVW"),
  (0x1d44b, "XYZabcdefg·ijklmnopqrstuvwxyzABCDEFGHIJKLMNOPQRSTUVWXYZabcdefghijklmnopqrst"),
  (0x1d496, "uvwxyzA·CD··G··JK··NOPQ·STUVWXYZabcd·f·hijklmn·pqrstuvwxyzABCDEFGHIJKLMNOPQ"),
  (0x1d4e1, "RSTUVWXYZabcdefghijklmnopqrstuvwxyzAB·DEFG··JKLMNOPQ·STUVWXY·abcdefghijklmn"),
  (0x1d52c, "opqrstuvwxyzAB·DEFG·IJKLM·O···STUVWXY·abcdefghijklmnopqrstuvwxyzABCDEFGHIJK"),
  (0x1d577, "LMNOPQRSTUVWXYZabcdefghijklmnopqrstuvwxyzABCDEFGHIJKLMNOPQRSTUVWXYZabcdefgh"),
  (0x1d5c2, "ijklmnopqrstuvwxyzABCDEFGHIJKLMNOPQRSTUVWXYZabcdefghijklmnopqrstuvwxyzABCDE"),
  (0x1d60d, "FGHIJKLMNOPQRSTUVWXYZabcdefghijklmnopqrstuvwxyzABCDEFGHIJKLMNOPQRSTUVWXYZab"),
  (0x1d658, "cdefghijklmnopqrstuvwxyzABCDEFGHIJKLMNOPQRSTUVWXYZabcdefghijklmnopqrstuvwxy"),
  (0x1d6a3, "z"),
  (0x1d7ce, "01234567890123456789012345678901234567890123456789"),
  (0x1f12a, "SCR···ABCDEFGHIJKLMNOPQRSTUVWXYZ"),
  (0x1fbf0, "0123456789")]

/-- Runs of characters that keep several ASCII characters each, with middle dots between them. -/
def multipleFoldings : List (Nat × String) := [
  (0xbc, "14·12·34"),
  (0x132, "IJ·ij"),
  (0x1c4, "DZ·Dz·dz·LJ·Lj·lj·NJ·Nj·nj"),
  (0x1f1, "DZ·Dz·dz"),
  (0x2025, "..·..."),
  (0x203c, "!!"),
  (0x2047, "??·?!·!?"),
  (0x20a8, "Rs"),
  (0x2100, "a/c·a/s"),
  (0x2105, "c/o·c/u"),
  (0x2116, "No"),
  (0x2120, "SM·TEL·TM"),
  (0x213b, "FAX"),
  (0x2150, "17·19·110·13·23·15·25·35·45·16·56·18·38·58·78"),
  (0x2161, "II·III·IV"),
  (0x2165, "VI·VII·VIII·IX"),
  (0x216a, "XI·XII"),
  (0x2171, "ii·iii·iv"),
  (0x2175, "vi·vii·viii·ix"),
  (0x217a, "xi·xii"),
  (0x2189, "03"),
  (0x2469, "10·11·12·13·14·15·16·17·18·19·20·(1)·(2)·(3)·(4)·(5)·(6)·(7)·(8)·(9)"),
  (0x247d, "(10)·(11)·(12)·(13)·(14)·(15)·(16)·(17)·(18)·(19)·(20)·1.·2.·3.·4."),
  (0x248c, "5.·6.·7.·8.·9.·10.·11.·12.·13.·14.·15.·16.·17.·18.·19.·20.·(a)·(b)"),
  (0x249e, "(c)·(d)·(e)·(f)·(g)·(h)·(i)·(j)·(k)·(l)·(m)·(n)·(o)·(p)·(q)·(r)·(s)"),
  (0x24af, "(t)·(u)·(v)·(w)·(x)·(y)·(z)"),
  (0x2a74, "::=·==·==="),
  (0x3200, "()·()·()·()·()·()·()·()·()·()·()·()·()·()·()·()·()·()·()·()·()·()"),
  (0x3216, "()·()·()·()·()·()·()·()·()"),
  (0x3220, "()·()·()·()·()·()·()·()·()·()·()·()·()·()·()·()·()·()·()·()·()·()"),
  (0x3236, "()·()·()·()·()·()·()·()·()·()·()·()·()·()"),
  (0x3250, "PTE·21·22·23·24·25·26·27·28·29·30·31·32·33·34·35"),
  (0x32b1, "36·37·38·39·40·41·42·43·44·45·46·47·48·49·50"),
  (0x32c9, "10·11·12·Hg·erg·eV·LTD"),
  (0x3362, "10·11·12·13·14·15·16·17·18·19·20·21·22·23·24·hPa·da·AU·bar·oV·pc·dm"),
  (0x3378, "dm2·dm3·IU"),
  (0x3380, "pA·nA"),
  (0x3383, "mA·kA·KB·MB·GB·cal·kcal·pF·nF"),
  (0x338e, "mg·kg·Hz·kHz·MHz·GHz·THz"),
  (0x3396, "ml·dl·kl·fm·nm"),
  (0x339c, "mm·cm·km·mm2·cm2·m2·km2·mm3·cm3·m3·km3·ms·ms2·Pa·kPa·MPa·GPa·rad·rads"),
  (0x33af, "rads2·ps·ns"),
  (0x33b3, "ms·pV·nV"),
  (0x33b7, "mV·kV·MV·pW·nW"),
  (0x33bd, "mW·kW·MW"),
  (0x33c2, "a.m.·Bq·cc·cd·Ckg·Co.·dB·Gy·ha·HP·in·KK·KM·kt·lm·ln·log·lx·mb·mil"),
  (0x33d6, "mol·PH·p.m.·PPM·PR·sr·Sv·Wb·Vm·Am"),
  (0x33e9, "10·11·12·13·14·15·16·17·18·19·20·21·22·23·24·25·26·27·28·29·30·31"),
  (0x33ff, "gal"),
  (0xfb00, "ff·fi·fl·ffi·ffl·st·st"),
  (0xfdfa, "   "),
  (0xfe19, "..."),
  (0xfe30, ".."),
  (0x1f100, "0.·0,·1,·2,·3,·4,·5,·6,·7,·8,·9,"),
  (0x1f110, "(A)·(B)·(C)·(D)·(E)·(F)·(G)·(H)·(I)·(J)·(K)·(L)·(M)·(N)·(O)·(P)·(Q)"),
  (0x1f121, "(R)·(S)·(T)·(U)·(V)·(W)·(X)·(Y)·(Z)"),
  (0x1f12d, "CD·WZ"),
  (0x1f14a, "HV·MV·SD·SS·PPV·WC"),
  (0x1f16a, "MC·MD·MR"),
  (0x1f190, "DJ")]

end VoiceMatch
