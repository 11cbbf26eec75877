/-!
# Display width

Boundaries of the characters that take two cells.
-/

namespace TableCast
namespace Text
namespace Table

/-- Boundaries of the characters with a wide or full-width display form. -/
def wide : Array Nat :=
  #[
    4352, 4448, 8986, 8988, 9001, 9003, 9193, 9197, 9200, 9201, 9203, 9204, 9725, 9727, 9748,
    9750, 9800, 9812, 9855, 9856, 9875, 9876, 9889, 9890, 9898, 9900, 9917, 9919, 9924, 9926,
    9934, 9935, 9940, 9941, 9962, 9963, 9970, 9972, 9973, 9974, 9978, 9979, 9981, 9982, 9989,
    9990, 9994, 9996, 10024, 10025, 10060, 10061, 10062, 10063, 10067, 10070, 10071, 10072,
    10133, 10136, 10160, 10161, 10175, 10176, 11035, 11037, 11088, 11089, 11093, 11094, 11904,
    11930, 11931, 12020, 12032, 12246, 12272, 12284, 12288, 12351, 12353, 12439, 12441, 12544,
    12549, 12592, 12593, 12687, 12688, 12772, 12784, 12831, 12832, 12872, 12880, 19904, 19968,
    42125, 42128, 42183, 43360, 43389, 44032, 55204, 63744, 64110, 64112, 64218, 65040, 65050,
    65072, 65107, 65108, 65127, 65128, 65132, 65281, 65377, 65504, 65511, 94176, 94181, 94192,
    94194, 94208, 100344, 100352, 101590, 101632, 101641, 110576, 110580, 110581, 110588, 110589,
    110591, 110592, 110883, 110928, 110931, 110948, 110952, 110960, 111356, 126980, 126981,
    127183, 127184, 127374, 127375, 127377, 127387, 127488, 127491, 127504, 127548, 127552,
    127561, 127568, 127570, 127584, 127590, 127744, 127777, 127789, 127798, 127799, 127869,
    127870, 127892, 127904, 127947, 127951, 127956, 127968, 127985, 127988, 127989, 127992,
    128063, 128064, 128065, 128066, 128253, 128255, 128318, 128331, 128335, 128336, 128360,
    128378, 128379, 128405, 128407, 128420, 128421, 128507, 128592, 128640, 128710, 128716,
    128717, 128720, 128723, 128725, 128728, 128733, 128736, 128747, 128749, 128756, 128765,
    128992, 129004, 129008, 129009, 129292, 129339, 129340, 129350, 129351, 129536, 129648,
    129653, 129656, 129661, 129664, 129671, 129680, 129709, 129712, 129723, 129728, 129734,
    129744, 129754, 129760, 129768, 129776, 129783, 131072, 173792, 173824, 177977, 177984,
    178206, 178208, 183970, 183984, 191457, 194560, 195102, 196608, 201547]

end Table
end Text
end TableCast
