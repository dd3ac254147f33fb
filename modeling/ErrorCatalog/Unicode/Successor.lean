import ErrorCatalog.Unicode.CharSet

/-!
# The next version

The tables of properties describe one version of the character set, by which
the classes of patterns go. The names of groups and outlines go by the next
version; what it adds is listed here.
-/

namespace ErrorCatalog

namespace Successor

/-- The new letters, and other new characters used like letters. -/
def letters : CharSet :=
  CharSet.listed
    "88F C5C CDC A7CE..A7CF A7D2 A7D4 A7F1 10940..10959 10EC5..10EC7 10EFA..10EFB 11B60..11B67
    11DB0..11DDB 16EA0..16EB8 16EBB..16ED3 16FF2..16FF6 187F8..187FF 18D09..18D1E 18D80..18DF2
    1E6C0..1E6DE 1E6E0..1E6F5 1E6FE..1E6FF 2B73A..2B73F 2CEA2..2CEAD 323B0..33479"

/-- The new digits that are not among the new letters. -/
def digits : CharSet := CharSet.listed "11DE0..11DE9"

/-- The new characters with a visible form of their own. -/
def visible : CharSet :=
  CharSet.listed
    "88F C5C CDC 20C1 2B96 A7CE..A7CF A7D2 A7D4 A7F1 FBC3..FBD2 FD90..FD91 FDC8..FDCE
    10940..10959 10EC5..10EC7 10ED0..10ED8 11B61 11B65 11B67 11DB0..11DDB 11DE0..11DE9
    16EA0..16EB8 16EBB..16ED3 16FF2..16FF6 187F8..187FF 18D09..18D1E 18D80..18DF2 1CCFA..1CCFC
    1CEBA..1CED0 1CEE0..1CEF0 1E6C0..1E6DE 1E6E0..1E6E2 1E6E4..1E6E5 1E6E7..1E6ED 1E6F0..1E6F4
    1E6FE..1E6FF 1F6D8 1F777..1F77A 1F8D0..1F8D8 1FA54..1FA57 1FA8A 1FA8E 1FAC8 1FACD 1FAEA
    1FAEF 1FBFA 2B73A..2B73F 2CEA2..2CEAD 323B0..33479"

end Successor

end ErrorCatalog
