import LinkGate.Text.Mark

/-!
# Writing direction

The bidirectional classes of characters, as far as domain names tell them apart.
-/

namespace LinkGate.Text

inductive Direction where
  | leftToRight
  | rightToLeft
  | arabicLetter
  | europeanNumber
  | europeanSeparator
  | europeanTerminator
  | arabicNumber
  | commonSeparator
  | nonspacingMark
  | boundaryNeutral
  | otherNeutral
  /-- Separators of paragraphs and segments, and whitespace. -/
  | space
deriving DecidableEq, Repr

/-- The classes of the characters that are not written from left to right, by their short names. -/
def Direction.classes : RunTable := .ofText "0-8=BN 9=S A=B B=S C=WS D=B E-1B=BN 1C-1E=B 1F=S 20=WS 21-22=ON 23-25=ET 26-2A=ON 2B=ES 2C=CS
2D=ES 2E-2F=CS 30-39=EN 3A=CS 3B-60=ON 7B-7E=ON 7F=BN A1=ON A2-A5=ET A6-AE=ON B0-B1=ET B6-D7=ON
F7=ON 2B9-2BA=ON 2C2-2CF=ON 2D2-2ED=ON 2EF-2FF=ON 375=ON 3F6=ON 58A-58E=ON 58F=ET 5BE-5F4=R
606-607=ON 608=AL 609-60A=ET 60B=AL 60C=CS 60D=AL 60E-60F=ON 61B-64A=AL 660-669=AN 66A=ET
66B-66C=AN 66D-6D5=AL 6DE=ON 6E5-6E6=AL 6E9=ON 6EE-6EF=AL 6F0-6F9=EN 6FA-7B1=AL 7C0-7F5=R
7F6-7F9=ON 7FA-85E=R 860-8C9=AL 9F2-9F3=ET 9FB=ET AF1=ET BF3-BF8=ON BF9=ET BFA=ON C78-C7E=ON
E3F=ET F3A-F3D=ON 1390-1399=ON 1400=ON 169B-169C=ON 17DB=ET 17F0-180A=ON 1940-1945=ON 19DE-19FF=ON
1B4E-1B4F=ON 1B7F=ON 200C-200D=BN 2010-2027=ON 2030-2032=ET 2035-2043=ON 2044=CS 2045-205E=ON
20A0-20C1=ET 2104-2129=ON 212E=ET 213A-214D=ON 218A-2211=ON 2212=ES 2213=ET 2214-2335=ON
237B-2394=ON 2396-26AB=ON 26AD-27FF=ON 2900-2BFF=ON 2CE5-2CEA=ON 2CF9-2CFF=ON 2E00-3004=ON
3008-3020=ON 3030=ON 3037=ON 303D-303F=ON 30A0=ON 30FB=ON 31C0-31E5=ON 4DC0-4DFF=ON A490-A4C6=ON
A60D-A60F=ON A673-A67F=ON A700-A721=ON A788=ON A828-A82B=ON A838-A839=ET A874-A877=ON AB6A-AB6B=ON
FBB2-FBD2=AL FD3E-FD4F=ON FD90-FDCE=AL FDCF-FE46=ON FE73=AL 10101=ON 10140-1018C=ON 10190-101A0=ON
102E1-102FB=EN 10800-1091B=R 1091F=ON 10920-10B35=R 10B39-10B3F=ON 10B40-10CFF=R 10D00-10D23=AL
10D30-10D39=AN 10D40-10D8F=R 10E60-10E7E=AN 10E80-10EB1=R 10EC2-10ED8=AL 10F00-10F27=R
10F30-10F59=AL 10F70-10FF6=R 11052-11065=ON 113D4-113D8=ON 11660-1166C=ON 1171E=NSM 11BE1=ON
11FD5-11FDC=ON 11FDD-11FE0=ET 11FE1-11FF1=ON 16D6D-16D6F=ON 16FE2=ON 1CC00-1CEF0=ON 1D1E9-1D245=ON
1D300-1D356=ON 1E2FF=ET 1E5FF=ON 1E800-1E95F=R 1EC71-1ED3D=AL 1EEF0-1F12F=ON 1F16D-1F16F=ON
1F1AD=ON 1F260-1FBFA=ON"

/-- The class with a short name; the classes of white space have one value together. -/
def Direction.ofName : String → Direction
  | "R" => .rightToLeft
  | "AL" => .arabicLetter
  | "EN" => .europeanNumber
  | "ES" => .europeanSeparator
  | "ET" => .europeanTerminator
  | "AN" => .arabicNumber
  | "CS" => .commonSeparator
  | "NSM" => .nonspacingMark
  | "BN" => .boundaryNeutral
  | "ON" => .otherNeutral
  | "L" => .leftToRight
  | _ => .space

def direction (c : Char) : Direction :=
  if isNonspacing c then .nonspacingMark
  else ((Direction.classes.value? c).map Direction.ofName).getD .leftToRight

end LinkGate.Text
