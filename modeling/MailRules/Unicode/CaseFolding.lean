/-!
# CaseFolding — characters that differ in case only

Under simple case folding every character stands for itself or is one of a small orbit of characters
that fold alike.  Orbits of two come in families: an arithmetic progression of characters, each of
which has its partner at one fixed distance.  The few larger orbits are listed one by one.
-/

namespace MailRules
namespace Unicode

/-- Start, step, length and distance to the partner, four numbers a family. -/
def pairFamilies : String := "
    65 1 10 32 76 1 7 32 84 1 7 32 192 1 5 32 198 1 17 32 216 1 7 32 223 1 1 7615 255 1 1 121 256 2
    24 1 306 2 3 1 313 2 8 1 330 2 23 1 377 2 3 1 384 1 1 195 385 1 1 210 386 2 2 1 390 1 1 206 391
    1 1 1 393 1 2 205 395 1 1 1 398 1 1 79 399 1 1 202 400 1 1 203 401 1 1 1 403 1 1 205 404 1 1 207
    405 1 1 97 406 1 1 211 407 1 1 209 408 1 1 1 410 1 1 163 411 1 1 42561 412 1 1 211 413 1 1 213
    414 1 1 130 415 1 1 214 416 2 3 1 422 1 1 218 423 1 1 1 425 1 1 218 428 1 1 1 430 1 1 218 431 1
    1 1 433 1 2 217 435 2 2 1 439 1 1 219 440 1 1 1 444 1 1 1 447 1 1 56 461 2 8 1 478 2 9 1 500 1 1
    1 504 2 20 1 546 2 9 1 570 1 1 10795 571 1 1 1 574 1 1 10792 575 1 2 10815 577 1 1 1 580 1 1 69
    581 1 1 71 582 2 5 1 592 1 1 10783 593 1 1 10780 594 1 1 10782 604 1 1 42319 609 1 1 42315 612 1
    1 42343 613 1 1 42280 614 1 1 42308 618 1 1 42308 619 1 1 10743 620 1 1 42305 625 1 1 10749 637
    1 1 10727 642 1 1 42307 647 1 1 42282 669 1 1 42261 670 1 1 42258 880 2 2 1 886 1 1 1 891 1 3
    130 895 1 1 116 902 1 1 38 904 1 3 37 908 1 1 64 910 1 2 63 912 1 1 7235 913 2 2 32 916 2 2 32
    919 1 1 32 923 2 3 32 926 1 1 32 932 1 2 32 935 1 2 32 938 1 2 32 944 1 1 7219 975 1 1 8 984 2
    12 1 1010 1 1 7 1015 1 1 1 1018 1 1 1 1024 1 16 80 1040 1 2 32 1043 2 7 32 1046 2 4 32 1056 1 1
    32 1059 1 7 32 1067 1 5 32 1120 1 1 1 1124 2 15 1 1162 2 27 1 1216 1 1 15 1217 2 7 1 1232 2 48 1
    1329 1 38 48 4256 1 38 7264 4295 1 1 7264 4301 1 1 7264 4304 1 43 3008 4349 1 3 3008 5024 1 80
    38864 5104 1 6 8 7305 1 1 1 7545 1 1 35332 7549 1 1 3814 7566 1 1 35384 7680 2 48 1 7778 2 26 1
    7840 2 48 1 7936 1 8 8 7952 1 6 8 7968 1 8 8 7984 1 8 8 8000 1 6 8 8017 2 4 8 8032 1 8 8 8048 1
    2 74 8050 1 4 86 8054 1 2 100 8056 1 2 128 8058 1 2 112 8060 1 2 126 8064 1 8 8 8080 1 8 8 8096
    1 8 8 8112 1 2 8 8115 1 1 9 8131 1 1 9 8144 1 2 8 8160 1 2 8 8165 1 1 7 8179 1 1 9 8498 1 1 28
    8544 1 16 16 8579 1 1 1 9398 1 26 26 11264 1 48 48 11360 1 1 1 11367 2 3 1 11378 1 1 1 11381 1 1
    1 11392 2 50 1 11499 2 2 1 11506 1 1 1 42560 2 5 1 42572 2 17 1 42624 2 14 1 42786 2 7 1 42802 2
    31 1 42873 2 2 1 42878 2 5 1 42891 1 1 1 42896 2 2 1 42900 1 1 48 42902 2 10 1 42931 1 1 928
    42932 2 8 1 42951 2 2 1 42956 1 1 1 42960 1 1 1 42966 2 3 1 42997 1 1 1 64261 1 1 1 65313 1 26
    32 66560 1 40 40 66736 1 36 40 66928 1 11 39 66940 1 15 39 66956 1 7 39 66964 1 2 39 68736 1 51
    64 68944 1 22 32 71840 1 32 32 93760 1 32 32 125184 1 34 34"

/-- Size and members, one orbit after the other. -/
def largeOrbits : String := "
    3 75 107 8490 3 83 115 383 3 181 924 956 3 197 229 8491 3 452 453 454 3 455 456 457 3 458 459
    460 3 497 498 499 4 837 921 953 8126 3 914 946 976 3 917 949 1013 4 920 952 977 1012 3 922 954
    1008 3 928 960 982 3 929 961 1009 3 931 962 963 3 934 966 981 3 937 969 8486 3 1042 1074 7296 3
    1044 1076 7297 3 1054 1086 7298 3 1057 1089 7299 4 1058 1090 7300 7301 3 1066 1098 7302 3 1122
    1123 7303 3 7304 42570 42571 3 7776 7777 7835"

end Unicode
end MailRules
