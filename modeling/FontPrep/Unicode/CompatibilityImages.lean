namespace FontPrep.Unicode

/-- Consecutive characters from `start` on, with one image each, images separated by spaces. -/
structure ImageRun where
  start : Nat
  images : String

def compatibilityRuns : List ImageRun :=
  [⟨0xAA, "a"⟩, ⟨0xB2, "2 3"⟩, ⟨0xB9, "1 o"⟩, ⟨0xBC, "14 12 34"⟩, ⟨0xC0, "A A A A A A"⟩,
   ⟨0xC7, "C E E E E I I I I"⟩, ⟨0xD1, "N O O O O O"⟩, ⟨0xD9, "U U U U Y"⟩, ⟨0xE0, "a a a a a a"⟩,
   ⟨0xE7, "c e e e e i i i i"⟩, ⟨0xF1, "n o o o o o"⟩, ⟨0xF9, "u u u u y"⟩,
   ⟨0xFF, "y A a A a A a C c C c C c C c D d"⟩, ⟨0x112, "E e E e E e E e E e G g G g G g G g H h"⟩,
   ⟨0x128, "I i I i I i I i I"⟩, ⟨0x132, "IJ ij J j K k"⟩, ⟨0x139, "L l L l L l L l"⟩,
   ⟨0x143, "N n N n N n n"⟩, ⟨0x14C, "O o O o O o"⟩,
   ⟨0x154, "R r R r R r S s S s S s S s T t T t"⟩,
   ⟨0x168, "U u U u U u U u U u U u W w Y y Y Z z Z z Z z s"⟩, ⟨0x1A0, "O o"⟩, ⟨0x1AF, "U u"⟩,
   ⟨0x1C4, "DZ Dz dz LJ Lj lj NJ Nj nj A a I i O o U u U u U u U u U u"⟩, ⟨0x1DE, "A a A a"⟩,
   ⟨0x1E6, "G g K k O o O o"⟩, ⟨0x1F0, "j DZ Dz dz G g"⟩, ⟨0x1F8, "N n A a"⟩,
   ⟨0x200, "A a A a E e E e I i I i O o O o R r R r U u U u S s T t"⟩, ⟨0x21E, "H h"⟩,
   ⟨0x226, "A a E e O o O o O o O o Y y"⟩, ⟨0x2B0, "h"⟩, ⟨0x2B2, "j r"⟩, ⟨0x2B7, "w y"⟩,
   ⟨0x2E1, "l s x"⟩, ⟨0x1D2C, "A"⟩, ⟨0x1D2E, "B"⟩, ⟨0x1D30, "D E"⟩, ⟨0x1D33, "G H I J K L M N"⟩,
   ⟨0x1D3C, "O"⟩, ⟨0x1D3E, "P R T U W a"⟩, ⟨0x1D47, "b d e"⟩, ⟨0x1D4D, "g"⟩, ⟨0x1D4F, "k m"⟩,
   ⟨0x1D52, "o"⟩, ⟨0x1D56, "p t u"⟩, ⟨0x1D5B, "v"⟩, ⟨0x1D62, "i r u v"⟩, ⟨0x1D9C, "c"⟩,
   ⟨0x1DA0, "f"⟩, ⟨0x1DBB, "z"⟩,
   ⟨0x1E00, "A a B b B b B b C c D d D d D d D d D d E e E e E e E e E e F f G g H h H h"⟩,
   ⟨0x1E26, "H h H h H h I i I i K k K k K k L l L l L l L l M m M m M m N n N n N n N n"⟩,
   ⟨0x1E4C, "O o O o O o O o P p P p R r R r R r R r S s S s S s S s S s T t T t T t T t"⟩,
   ⟨0x1E72, "U u U u U u U u U u V v V v W w W w W w W w W w X x X x Y y Z z Z z Z z h t"⟩,
   ⟨0x1E98, "w y a s"⟩,
   ⟨0x1EA0, "A a A a A a A a A a A a A a A a A a A a A a A a E e E e E e E e E e E e E e"⟩,
   ⟨0x1EC6, "E e I i I i O o O o O o O o O o O o O o O o O o O o O o O o U u U u U u U u"⟩,
   ⟨0x1EEC, "U u U u U u Y y Y y Y y Y y"⟩, ⟨0x2024, ". .. ..."⟩, ⟨0x2070, "0 i"⟩,
   ⟨0x2074, "4 5 6 7 8 9"⟩, ⟨0x207F, "n 0 1 2 3 4 5 6 7 8 9"⟩, ⟨0x2090, "a e o x"⟩,
   ⟨0x2095, "h k l m n p s t w y z"⟩, ⟨0x20A8, "Rs"⟩, ⟨0x2100, "ac as C C"⟩, ⟨0x2105, "co cu"⟩,
   ⟨0x2109, "F g H H H h"⟩, ⟨0x2110, "I I L l"⟩, ⟨0x2115, "N No"⟩, ⟨0x2119, "P Q R R R"⟩,
   ⟨0x2120, "SM TEL TM"⟩, ⟨0x2124, "Z"⟩, ⟨0x2128, "Z"⟩, ⟨0x212A, "K A B C"⟩, ⟨0x212F, "e E F"⟩,
   ⟨0x2133, "M o"⟩, ⟨0x2139, "i"⟩, ⟨0x213B, "FAX"⟩, ⟨0x2145, "D d e i j"⟩,
   ⟨0x2150, "17 19 110 13 23 15 25 35 45 16 56 18 38 58 78 1 I II III IV V VI VII VIII IX"⟩,
   ⟨0x2169, "X XI XII L C D M i ii iii iv v vi vii viii ix x xi xii l c d m"⟩, ⟨0x2189, "03"⟩,
   ⟨0x2460, "1 2 3 4 5 6 7 8 9 10 11 12 13 14 15 16 17 18 19 20 1 2 3 4 5 6 7 8 9 10 11"⟩,
   ⟨0x247F, "12 13 14 15 16 17 18 19 20 1. 2. 3. 4. 5. 6. 7. 8. 9. 10. 11. 12. 13. 14."⟩,
   ⟨0x2496, "15. 16. 17. 18. 19. 20. a b c d e f g h i j k l m n o p q r s t u v w x y z"⟩,
   ⟨0x24B6, "A B C D E F G H I J K L M N O P Q R S T U V W X Y Z a b c d e f g h i j k l"⟩,
   ⟨0x24DC, "m n o p q r s t u v w x y z 0"⟩, ⟨0x2C7C, "j V"⟩,
   ⟨0x3250, "PTE 21 22 23 24 25 26 27 28 29 30 31 32 33 34 35"⟩,
   ⟨0x32B1, "36 37 38 39 40 41 42 43 44 45 46 47 48 49 50 1 2 3 4 5 6 7 8 9 10 11 12 Hg"⟩,
   ⟨0x32CD, "erg eV LTD"⟩,
   ⟨0x3358, "0 1 2 3 4 5 6 7 8 9 10 11 12 13 14 15 16 17 18 19 20 21 22 23 24 hPa da AU"⟩,
   ⟨0x3374, "bar oV pc dm dm2 dm3 IU"⟩,
   ⟨0x3380, "pA nA A mA kA KB MB GB cal kcal pF nF F g mg kg Hz kHz MHz GHz THz l ml dl"⟩,
   ⟨0x3398, "kl fm nm m mm cm km mm2 cm2 m2 km2 mm3 cm3 m3 km3 ms ms2 Pa kPa MPa GPa rad"⟩,
   ⟨0x33AE, "rads rads2 ps ns s ms pV nV V mV kV MV pW nW W mW kW MW k M a.m. Bq cc cd"⟩,
   ⟨0x33C6, "Ckg Co. dB Gy ha HP in KK KM kt lm ln log lx mb mil mol PH p.m. PPM PR sr Sv"⟩,
   ⟨0x33DD, "Wb Vm Am 1 2 3 4 5 6 7 8 9 10 11 12 13 14 15 16 17 18 19 20 21 22 23 24 25"⟩,
   ⟨0x33F9, "26 27 28 29 30 31 gal"⟩, ⟨0xA7F1, "S C F Q"⟩, ⟨0xFB00, "ff fi fl ffi ffl st st"⟩,
   ⟨0xFE19, "..."⟩, ⟨0xFE30, ".."⟩, ⟨0xFE33, "_ _"⟩, ⟨0xFE4D, "_ _ _"⟩, ⟨0xFE52, "."⟩,
   ⟨0xFF0E, "."⟩, ⟨0xFF10, "0 1 2 3 4 5 6 7 8 9"⟩,
   ⟨0xFF21, "A B C D E F G H I J K L M N O P Q R S T U V W X Y Z"⟩, ⟨0xFF3F, "_"⟩,
   ⟨0xFF41, "a b c d e f g h i j k l m n o p q r s t u v w x y z"⟩, ⟨0x107A5, "q"⟩,
   ⟨0x1CCD6, "A B C D E F G H I J K L M N O P Q R S T U V W X Y Z 0 1 2 3 4 5 6 7 8 9"⟩,
   ⟨0x1D400, "A B C D E F G H I J K L M N O P Q R S T U V W X Y Z a b c d e f g h i j k l"⟩,
   ⟨0x1D426, "m n o p q r s t u v w x y z A B C D E F G H I J K L M N O P Q R S T U V W X"⟩,
   ⟨0x1D44C, "Y Z a b c d e f g"⟩,
   ⟨0x1D456, "i j k l m n o p q r s t u v w x y z A B C D E F G H I J K L M N O P Q R S T"⟩,
   ⟨0x1D47C, "U V W X Y Z a b c d e f g h i j k l m n o p q r s t u v w x y z A"⟩,
   ⟨0x1D49E, "C D"⟩, ⟨0x1D4A2, "G"⟩, ⟨0x1D4A5, "J K"⟩, ⟨0x1D4A9, "N O P Q"⟩,
   ⟨0x1D4AE, "S T U V W X Y Z a b c d"⟩, ⟨0x1D4BB, "f"⟩, ⟨0x1D4BD, "h i j k l m n"⟩,
   ⟨0x1D4C5, "p q r s t u v w x y z A B C D E F G H I J K L M N O P Q R S T U V W X Y Z a"⟩,
   ⟨0x1D4EB, "b c d e f g h i j k l m n o p q r s t u v w x y z A B"⟩, ⟨0x1D507, "D E F G"⟩,
   ⟨0x1D50D, "J K L M N O P Q"⟩, ⟨0x1D516, "S T U V W X Y"⟩,
   ⟨0x1D51E, "a b c d e f g h i j k l m n o p q r s t u v w x y z A B"⟩, ⟨0x1D53B, "D E F G"⟩,
   ⟨0x1D540, "I J K L M"⟩, ⟨0x1D546, "O"⟩, ⟨0x1D54A, "S T U V W X Y"⟩,
   ⟨0x1D552, "a b c d e f g h i j k l m n o p q r s t u v w x y z A B C D E F G H I J K L"⟩,
   ⟨0x1D578, "M N O P Q R S T U V W X Y Z a b c d e f g h i j k l m n o p q r s t u v w x"⟩,
   ⟨0x1D59E, "y z A B C D E F G H I J K L M N O P Q R S T U V W X Y Z a b c d e f g h i j"⟩,
   ⟨0x1D5C4, "k l m n o p q r s t u v w x y z A B C D E F G H I J K L M N O P Q R S T U V"⟩,
   ⟨0x1D5EA, "W X Y Z a b c d e f g h i j k l m n o p q r s t u v w x y z A B C D E F G H"⟩,
   ⟨0x1D610, "I J K L M N O P Q R S T U V W X Y Z a b c d e f g h i j k l m n o p q r s t"⟩,
   ⟨0x1D636, "u v w x y z A B C D E F G H I J K L M N O P Q R S T U V W X Y Z a b c d e f"⟩,
   ⟨0x1D65C, "g h i j k l m n o p q r s t u v w x y z A B C D E F G H I J K L M N O P Q R"⟩,
   ⟨0x1D682, "S T U V W X Y Z a b c d e f g h i j k l m n o p q r s t u v w x y z"⟩,
   ⟨0x1D7CE, "0 1 2 3 4 5 6 7 8 9 0 1 2 3 4 5 6 7 8 9 0 1 2 3 4 5 6 7 8 9 0 1 2 3 4 5 6 7"⟩,
   ⟨0x1D7F4, "8 9 0 1 2 3 4 5 6 7 8 9"⟩, ⟨0x1F100, "0. 0 1 2 3 4 5 6 7 8 9"⟩,
   ⟨0x1F110, "A B C D E F G H I J K L M N O P Q R S T U V W X Y Z S C R CD WZ"⟩,
   ⟨0x1F130, "A B C D E F G H I J K L M N O P Q R S T U V W X Y Z HV MV SD SS PPV WC"⟩,
   ⟨0x1F16A, "MC MD MR"⟩, ⟨0x1F190, "DJ"⟩, ⟨0x1FBF0, "0 1 2 3 4 5 6 7 8 9"⟩]

end FontPrep.Unicode
